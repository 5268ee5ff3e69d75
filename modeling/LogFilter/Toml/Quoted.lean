import LogFilter.Text.Hex

/-!
# TOML strings

Basic strings stand between double quotes and have escapes, literal strings stand between single
quotes and have none. Either kind has a form of several lines between triple quotes.
-/

namespace LogFilter.Toml

/-- Characters that may stand for themselves: all but the controls, tab excepted. -/
def isVisible (c : Char) : Bool :=
  c == '\t' || (0x20 ≤ c.toNat && c.toNat ≠ 0x7F)

/-- Takes off a line end. -/
def newline? : Text → Option Text
  | '\n' :: s => some s
  | '\r' :: '\n' :: s => some s
  | _ => none

def isSpace (c : Char) : Bool := c == ' ' || c == '\t'

def skipSpaces (s : Text) : Text := s.dropWhile isSpace

/-- Passes over spaces and line ends. -/
def skipLines : Text → Text
  | '\r' :: '\n' :: s => skipLines s
  | c :: s => if isSpace c ∨ c = '\n' then skipLines s else c :: s
  | [] => []

theorem length_skipLines_le (s : Text) : (skipLines s).length ≤ s.length := by
  fun_induction skipLines s with
  | case1 s ih => simp only [List.length_cons]; omega
  | case2 c s _ _ ih => simp only [List.length_cons]; omega
  | case3 => simp
  | case4 => simp

/-- A character given by its code point in a number of hexadecimal digits. -/
def scanCodePoint (count : Nat) (s : Text) : Option (Char × Text) := do
  let n ← hexNumber? (s.take count)
  if (s.take count).length = count ∧ n.isValidChar then some (Char.ofNat n, s.drop count) else none

/-- The character that a backslash begins. -/
def scanEscape : Text → Option (Char × Text)
  | '"' :: s => some ('"', s)
  | '\\' :: s => some ('\\', s)
  | 'b' :: s => some ('\x08', s)
  | 'f' :: s => some ('\x0c', s)
  | 'n' :: s => some ('\n', s)
  | 'r' :: s => some ('\r', s)
  | 't' :: s => some ('\t', s)
  | 'u' :: s => scanCodePoint 4 s
  | 'U' :: s => scanCodePoint 8 s
  | _ => none

theorem length_scanCodePoint_le {count : Nat} {s rest : Text} {c : Char}
    (h : scanCodePoint count s = some (c, rest)) : rest.length ≤ s.length := by
  unfold scanCodePoint at h
  obtain ⟨n, _, h⟩ := Option.bind_eq_some_iff.1 h
  split at h
  · simp only [Option.some.injEq, Prod.mk.injEq] at h
    rw [← h.2, List.length_drop]
    omega
  · cases h

theorem length_scanEscape_le {s rest : Text} {c : Char} (h : scanEscape s = some (c, rest)) :
    rest.length ≤ s.length := by
  unfold scanEscape at h
  split at h <;> try simp only [Option.some.injEq, Prod.mk.injEq, reduceCtorEq] at h
  all_goals first
    | simp only [← h.2, List.length_cons]; omega
    | have := length_scanCodePoint_le h; simp only [List.length_cons]; omega

/-- The content of a basic string on one line, after its opening quote. -/
def scanBasic : Text → Option (Text × Text)
  | [] => none
  | '"' :: s => some ([], s)
  | '\\' :: s =>
    match _h : scanEscape s with
    | some (c, s) => (scanBasic s).map fun (a, s) => (c :: a, s)
    | none => none
  | c :: s => if isVisible c then (scanBasic s).map fun (a, s) => (c :: a, s) else none
termination_by s => s.length
decreasing_by
  · have := length_scanEscape_le _h
    simp only [List.length_cons]
    omega
  · simp

/-- The content of a literal string on one line, after its opening quote. -/
def scanLiteral : Text → Option (Text × Text)
  | [] => none
  | '\'' :: s => some ([], s)
  | c :: s => if isVisible c then (scanLiteral s).map fun (a, s) => (c :: a, s) else none

/-- The quotes that end a string of several lines. Up to two quotes before them belong to it. -/
def closeTriple? (q : Char) (s : Text) : Option (Text × Text) :=
  let run := (s.takeWhile (· == q)).length
  if 3 ≤ run then some (List.replicate (min run 5 - 3) q, s.drop (min run 5)) else none

/-- Takes off a line end that a backslash hides, with all the blanks and line ends after it. -/
def hiddenLineEnd? (s : Text) : Option Text :=
  (newline? (skipSpaces s)).map skipLines

theorem length_newline?_lt {s rest : Text} (h : newline? s = some rest) :
    rest.length < s.length := by
  unfold newline? at h
  split at h
  · simp only [Option.some.injEq] at h
    simp [h]
  · simp only [Option.some.injEq] at h
    simp only [h, List.length_cons]
    omega
  · cases h

theorem length_hiddenLineEnd?_lt {s rest : Text} (h : hiddenLineEnd? s = some rest) :
    rest.length < s.length := by
  obtain ⟨t, ht, rfl⟩ := Option.map_eq_some_iff.1 h
  have h1 := length_skipLines_le t
  have h2 := length_newline?_lt ht
  have h3 := (List.dropWhile_suffix isSpace (l := s)).length_le
  unfold skipSpaces at h2
  omega

/-- The content of a basic string of several lines. -/
def scanBasicLines (s : Text) : Option (Text × Text) :=
  match closeTriple? '"' s with
  | some closed => some closed
  | none =>
    match s with
    | [] => none
    | '\r' :: '\n' :: s => (scanBasicLines s).map fun (a, s) => ('\n' :: a, s)
    | '\\' :: s =>
      match _h : hiddenLineEnd? s with
      | some s => scanBasicLines s
      | none =>
        match _h' : scanEscape s with
        | some (c, s) => (scanBasicLines s).map fun (a, s) => (c :: a, s)
        | none => none
    | c :: s =>
      if isVisible c ∨ c = '\n' then (scanBasicLines s).map fun (a, s) => (c :: a, s) else none
termination_by s.length
decreasing_by
  · simp only [List.length_cons]; omega
  · have := length_hiddenLineEnd?_lt _h
    simp only [List.length_cons]
    omega
  · have := length_scanEscape_le _h'
    simp only [List.length_cons]
    omega
  · simp

/-- The content of a literal string of several lines. -/
def scanLiteralLines (s : Text) : Option (Text × Text) :=
  match closeTriple? '\'' s with
  | some closed => some closed
  | none =>
    match s with
    | [] => none
    | '\r' :: '\n' :: s => (scanLiteralLines s).map fun (a, s) => ('\n' :: a, s)
    | c :: s =>
      if isVisible c ∨ c = '\n' then (scanLiteralLines s).map fun (a, s) => (c :: a, s) else none

/-- A string of any of the four kinds. A line end right after triple quotes does not count. -/
def scanQuoted : Text → Option (Text × Text)
  | '"' :: '"' :: '"' :: s => scanBasicLines ((newline? s).getD s)
  | '"' :: s => scanBasic s
  | '\'' :: '\'' :: '\'' :: s => scanLiteralLines ((newline? s).getD s)
  | '\'' :: s => scanLiteral s
  | _ => none

end LogFilter.Toml
