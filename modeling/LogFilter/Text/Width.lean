import LogFilter.Text.Shape

/-!
# Display width

How many columns of a terminal a text fills. Most characters fill one column, whatever stands
next to them. The width of the others depends on what follows, so a text is measured from its end.
-/

namespace LogFilter

/-- What a character needs to know of the characters after it. -/
inductive Following where
  | other
  | lineFeed
  /-- The selector that asks for an emoji; true where an emoji is joined on after it. -/
  | emojiSelector (joined : Bool)
  /-- The selector that asks for plain text. -/
  | textSelector
  /-- A skin tone. -/
  | skinTone
  | emoji
  /-- A joiner and then an emoji. -/
  | joinedEmoji
  | alef
  /-- A letter that can stand below the letter before it. -/
  | khmerLetter
  deriving DecidableEq, Repr

/-- The width of a character by itself, where it is neither a control character nor ASCII. -/
def plainWidth (n : Nat) : Int :=
  if n == 0x17A4 then 2
  else if n == 0x17D8 then 3
  else if inRanges zeroWidthRanges n then 0
  else if inRanges wideRanges n then 2
  else 1

/-- What a character is to the one before it. -/
def followingOf (n : Nat) : Following :=
  if n == 0xFE0F then .emojiSelector false
  else if n == 0xFE0E then .textSelector
  else if 0x1F3FB ≤ n && n ≤ 0x1F3FF then .skinTone
  else if inRanges emojiPresentationRanges n then .emoji
  else if inRanges alefRanges n then .alef
  else if 0x1780 ≤ n && n ≤ 0x17AF then .khmerLetter
  else .other

/-- The columns that a character adds, and what it is to the one before it. -/
def measure (c : Char) (next : Following) : Int × Following :=
  let n := c.toNat
  let alone : Int × Following :=
    if n == 0x0A then (1, .lineFeed)
    else if n ≤ 0xA0 then (1, .other)
    else (plainWidth n, followingOf n)
  match next with
  | .lineFeed => if n == 0x0D then (0, .other) else alone
  | .emojiSelector joined =>
    if inRanges emojiRanges n then (if joined then 0 else 2, .emoji) else alone
  | .textSelector =>
    if inRanges emojiPresentationRanges n && !(0x1F200 ≤ n && n ≤ 0x1F2FF) then (1, .other)
    else alone
  | .skinTone =>
    if inRanges modifierBaseRanges n then (0, .emoji)
    else if n == 0x200D then (0, .joinedEmoji)
    else alone
  | .emoji => if n == 0x200D then (0, .joinedEmoji) else alone
  | .joinedEmoji =>
    if n == 0xFE0F then (0, .emojiSelector true)
    else if 0x1F3FB ≤ n && n ≤ 0x1F3FF then (0, .skinTone)
    else if inRanges emojiPresentationRanges n then (0, .emoji)
    else alone
  | .alef =>
    if inRanges lamRanges n then (0, .other)
    else if 0xA0 < n && inRanges zeroWidthRanges n then (0, .alef)
    else alone
  | .khmerLetter => if n == 0x17D2 then (-1, .other) else alone
  | .other => alone

/-- The columns of a text, and what its first character is to one before it. -/
def measureText : Text → Int × Following
  | [] => (0, .other)
  | c :: s =>
    let (width, next) := measureText s
    let (added, first) := measure c next
    (width + added, first)

def displayWidth (s : Text) : Nat := (measureText s).1.toNat

end LogFilter
