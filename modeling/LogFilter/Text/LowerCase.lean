import LogFilter.Text.Case

/-!
# Lower case

The full lower case mapping of Unicode. One character depends on its neighbours: a capital sigma
at the end of a word becomes `ς`, any other `σ`.
-/

namespace LogFilter

def isCased (c : Char) : Bool :=
  if c.toNat < 0x80 then c.isAlpha else inRanges casedRanges c.toNat

/-- Characters that are passed over in the search for the letter next to a sigma. -/
def isCaseIgnorable (c : Char) : Bool :=
  if c.toNat < 0x80 then ['\'', '.', ':', '^', '\x60'].contains c
  else inRanges caseIgnorableRanges c.toNat

/-- The lower case of a character by itself; `İ` alone has one of two characters. -/
def lowerChar (c : Char) : Text :=
  if c.toNat < 0x80 then [c.toLower]
  else if c = 'İ' then ['i', '\u0307']
  else match capitalRanges.find? (·.contains c.toNat) with
    | some r => [Char.ofNat (c.toNat + r.shift).toNat]
    | none => [c]

/-- Whether the first character that counts is a letter with case. -/
def startsCased (s : Text) : Bool :=
  (s.dropWhile isCaseIgnorable).head?.any isCased

/-- Lowers a text that stands after the characters `before`, the nearest one first. -/
def lowerAfter (before : Text) : Text → Text
  | [] => []
  | c :: s =>
    let lowered :=
      if c = 'Σ' then [if startsCased before && !startsCased s then 'ς' else 'σ'] else lowerChar c
    lowered ++ lowerAfter (c :: before) s

def lower (s : Text) : Text :=
  lowerAfter [] s

end LogFilter
