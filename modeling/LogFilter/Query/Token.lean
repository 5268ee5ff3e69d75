import LogFilter.Text.Blank
import LogFilter.Text.KeyChar

/-!
# Tokens of a query

A query is a sequence of lexemes with blanks around them. A lexeme is a value, or a key, a colon
and a value; a value is an optional quoted segment and then everything up to the next blank.
`layout` cuts a query into lexemes and gaps, so every text is a query and nothing of it is lost
(`layout_text`).
-/

namespace LogFilter

/-- The two characters that open a quoted segment, which only the same character closes. -/
inductive Quote where
  | single
  | double
  deriving DecidableEq, Repr

namespace Quote

def char : Quote → Char
  | single => '\''
  | double => '"'

def ofChar? : Char → Option Quote
  | '\'' => some single
  | '"' => some double
  | _ => none

theorem ofChar?_eq_some {c : Char} {q : Quote} : ofChar? c = some q ↔ c = q.char := by
  unfold ofChar?
  split
  · cases q <;> simp [char]
  · cases q <;> simp [char]
  · cases q <;> simp_all [char]

/-- Cuts what follows an opening quote after the closing one. Between double quotes a backslash
takes the next character with it. -/
def close : Quote → Text → Option (Text × Text)
  | _, [] => none
  | double, '\\' :: c :: s => (close double s).map fun (a, b) => ('\\' :: c :: a, b)
  | q, c :: s =>
    if c = q.char then some ([c], s) else (close q s).map fun (a, b) => (c :: a, b)

theorem close_eq {q : Quote} {s inner rest : Text} (h : q.close s = some (inner, rest)) :
    s = inner ++ rest := by
  fun_induction close q s generalizing inner rest with
  | case1 => simp at h
  | case2 c s ih =>
    obtain ⟨⟨a, b⟩, hab, heq⟩ := Option.map_eq_some_iff.1 h
    simp only [Prod.mk.injEq] at heq
    obtain ⟨rfl, rfl⟩ := heq
    simp [ih hab]
  | case3 q s _ =>
    simp only [Option.some.injEq, Prod.mk.injEq] at h
    obtain ⟨rfl, rfl⟩ := h
    rfl
  | case4 q c s hc hq ih =>
    obtain ⟨⟨a, b⟩, hab, heq⟩ := Option.map_eq_some_iff.1 h
    simp only [Prod.mk.injEq] at heq
    obtain ⟨rfl, rfl⟩ := heq
    simp [ih hab]

end Quote

/-- A token of the query: `value`, or `key:value`. -/
structure Lexeme where
  key : Option Text
  value : Text
  /-- False where the value's quoted segment has no closing quote. -/
  closed : Bool
  deriving DecidableEq, Repr

namespace Lexeme

def text (l : Lexeme) : Text :=
  match l.key with
  | some key => key ++ ':' :: l.value
  | none => l.value

end Lexeme

/-- A value at the front of a text, whether its quotes are closed, and the text after it. -/
structure ValueCut where
  value : Text
  closed : Bool
  rest : Text

/-- Up to the next blank. -/
def cutWord (s : Text) : Text × Text :=
  (s.takeWhile (!isBlank ·), s.dropWhile (!isBlank ·))

/-- A value that has no opening quote, or whose segment closes, ends at the next blank; a value
whose segment stays open is all that is left. -/
def cutValue : Text → ValueCut
  | [] => ⟨[], true, []⟩
  | c :: s =>
    match Quote.ofChar? c with
    | none => ⟨(cutWord (c :: s)).1, true, (cutWord (c :: s)).2⟩
    | some q =>
      match q.close s with
      | none => ⟨c :: s, false, []⟩
      | some (inner, s) => ⟨c :: (inner ++ (cutWord s).1), true, (cutWord s).2⟩

/-- A key before a colon, and the text after the colon. -/
def cutKey? (s : Text) : Option (Text × Text) :=
  match s.dropWhile isKeyChar with
  | ':' :: rest =>
    if s.takeWhile isKeyChar = [] then none else some (s.takeWhile isKeyChar, rest)
  | _ => none

/-- The lexeme at the front of a text. -/
def cutLexeme (s : Text) : Lexeme × Text :=
  match cutKey? s with
  | some (key, s) => (⟨some key, (cutValue s).value, (cutValue s).closed⟩, (cutValue s).rest)
  | none => (⟨none, (cutValue s).value, (cutValue s).closed⟩, (cutValue s).rest)

theorem cutWord_append (s : Text) : (cutWord s).1 ++ (cutWord s).2 = s :=
  List.takeWhile_append_dropWhile

theorem cutValue_append (s : Text) : (cutValue s).value ++ (cutValue s).rest = s := by
  fun_cases cutValue s with
  | case1 => rfl
  | case2 c s h => simpa using cutWord_append (c :: s)
  | case3 c s q h hc => simp
  | case4 c s q h inner rest hc => simp [Quote.close_eq hc, cutWord_append]

theorem cutValue_value_ne_nil {c : Char} (s : Text) (h : isBlank c = false) :
    (cutValue (c :: s)).value ≠ [] := by
  simp only [cutValue]
  split
  · simp [cutWord, h]
  · split <;> simp

theorem cutKey?_eq {s key rest : Text} (h : cutKey? s = some (key, rest)) :
    s = key ++ ':' :: rest ∧ key ≠ [] ∧ ∀ c ∈ key, isKeyChar c := by
  have hs := List.takeWhile_append_dropWhile (p := isKeyChar) (l := s)
  have hall : ∀ c ∈ s.takeWhile isKeyChar, isKeyChar c := fun c hc =>
    List.all_eq_true.1 List.all_takeWhile c hc
  unfold cutKey? at h
  split at h
  · next rest' hrest =>
    split at h
    · simp at h
    · next hne =>
      simp only [Option.some.injEq, Prod.mk.injEq] at h
      obtain ⟨rfl, rfl⟩ := h
      exact ⟨by rw [← hrest, hs], hne, hall⟩
  · simp at h

theorem cutLexeme_append (s : Text) : (cutLexeme s).1.text ++ (cutLexeme s).2 = s := by
  unfold cutLexeme
  split
  · next key s' h => simp [Lexeme.text, (cutKey?_eq h).1, cutValue_append]
  · simp [Lexeme.text, cutValue_append]

/-- A lexeme and the blanks before it. -/
structure Piece where
  gap : Text
  lexeme : Lexeme
  deriving DecidableEq, Repr

/-- A query cut into lexemes and gaps. -/
structure Layout where
  pieces : List Piece
  /-- The blanks after the last lexeme. -/
  trailing : Text
  deriving DecidableEq, Repr

theorem length_cutLexeme_lt {c : Char} {s : Text} (h : isBlank c = false) :
    (cutLexeme (c :: s)).2.length < (c :: s).length := by
  have hlen := congrArg List.length (cutLexeme_append (c :: s))
  have hpos : 0 < (cutLexeme (c :: s)).1.text.length := by
    unfold cutLexeme
    split
    · simp only [Lexeme.text, List.length_append, List.length_cons]
      omega
    · exact List.length_pos_iff.2 (cutValue_value_ne_nil s h)
  simp only [List.length_append] at hlen
  omega

theorem isBlank_of_dropWhile {s : Text} {c : Char} {rest : Text}
    (h : s.dropWhile isBlank = c :: rest) : isBlank c = false := by
  have := List.head?_dropWhile_not isBlank s
  simpa [h] using this

def layout (s : Text) : Layout :=
  match _h : s.dropWhile isBlank with
  | [] => ⟨[], s⟩
  | c :: rest =>
    let tail := layout (cutLexeme (c :: rest)).2
    ⟨⟨s.takeWhile isBlank, (cutLexeme (c :: rest)).1⟩ :: tail.pieces, tail.trailing⟩
termination_by s.length
decreasing_by
  have hlt := length_cutLexeme_lt (s := rest) (isBlank_of_dropWhile _h)
  have hle := (List.dropWhile_suffix isBlank (l := s)).length_le
  rw [_h] at hle
  omega

namespace Layout

/-- The query itself. -/
def text (l : Layout) : Text :=
  l.pieces.flatMap (fun p => p.gap ++ p.lexeme.text) ++ l.trailing

end Layout

theorem layout_text (s : Text) : (layout s).text = s := by
  fun_induction layout s with
  | case1 s h => simp [Layout.text]
  | case2 s c rest h tail ih =>
    have hs := List.takeWhile_append_dropWhile (p := isBlank) (l := s)
    have hl := cutLexeme_append (c :: rest)
    simp only [Layout.text, List.flatMap_cons, List.append_assoc] at ih ⊢
    rw [ih, hl, ← h, hs]

/-- A lexeme and the byte offset at which it starts. -/
structure Token where
  start : Nat
  lexeme : Lexeme
  deriving DecidableEq, Repr

namespace Token

def stop (t : Token) : Nat :=
  t.start + byteLength t.lexeme.text

/-- Where the key stops and where the value starts, in a token that has a key. -/
def keyed? (t : Token) : Option (Nat × Nat) :=
  t.lexeme.key.map fun key =>
    (t.start + byteLength key, t.start + byteLength key + 1)

end Token

/-- The tokens of consecutive pieces, the first of which begins at `offset`. -/
def tokensFrom (offset : Nat) : List Piece → List Token
  | [] => []
  | p :: pieces =>
    let start := offset + byteLength p.gap
    ⟨start, p.lexeme⟩ :: tokensFrom (start + byteLength p.lexeme.text) pieces

def tokens (s : Text) : List Token :=
  tokensFrom 0 (layout s).pieces

end LogFilter
