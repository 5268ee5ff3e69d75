import LogFilter.Decimal.Read
import LogFilter.Json.Fault
import LogFilter.Text.Hex

/-!
# Scanning JSON

The parts of JSON below its values: blanks, words, strings and numbers. Each scanner takes its
part off the front of a text.
-/

namespace LogFilter.Json

def isJsonBlank (c : Char) : Bool :=
  c == ' ' || c == '\n' || c == '\t' || c == '\r'

def skipBlanks (s : Text) : Text := s.dropWhile isJsonBlank

/-- Takes the rest of a word off. -/
def skipWord : Text → Text → Except Fault Text
  | [], s => .ok s
  | _ :: _, [] => .error .truncated
  | w :: word, c :: s => if c = w then skipWord word s else .error .malformed

/-- Takes one punctuation mark off, after blanks. -/
def skipMark (mark : Char) (s : Text) : Except Fault Text :=
  match skipBlanks s with
  | [] => .error .truncated
  | c :: s => if c = mark then .ok s else .error .malformed

/-! ### Strings -/

/-- Four hexadecimal digits. -/
def scanHex (s : Text) : Except Fault (Nat × Text) :=
  if byteLength (s.take 4) < 4 then .error .truncated
  else match hexNumber? (s.take 4) with
    | some n => .ok (n, s.drop 4)
    | none => .error .malformed

/-- One step through the content of a string. -/
inductive StringUnit where
  | closing
  | plain (c : Char)
  /-- A UTF-16 code unit, written by its number. -/
  | code (n : Nat)
  deriving DecidableEq, Repr

/-- What a backslash and the character after it stand for. -/
def escaped? : Char → Option Char
  | '"' => some '"'
  | '\\' => some '\\'
  | '/' => some '/'
  | 'b' => some '\x08'
  | 'f' => some '\x0c'
  | 'n' => some '\n'
  | 'r' => some '\r'
  | 't' => some '\t'
  | _ => none

def scanUnit : Text → Except Fault (StringUnit × Text)
  | [] => .error .truncated
  | '"' :: s => .ok (.closing, s)
  | ['\\'] => .error .truncated
  | '\\' :: 'u' :: s => (scanHex s).map fun (n, s) => (.code n, s)
  | '\\' :: c :: s =>
    match escaped? c with
    | some c => .ok (.plain c, s)
    | none => .error .malformed
  | c :: s => if c.toNat < 0x20 then .error .malformed else .ok (.plain c, s)

theorem length_scanHex_le {s rest : Text} {n : Nat} (h : scanHex s = .ok (n, rest)) :
    rest.length ≤ s.length := by
  unfold scanHex at h
  split at h
  · cases h
  · split at h
    · simp only [Except.ok.injEq, Prod.mk.injEq] at h
      rw [← h.2, List.length_drop]
      omega
    · cases h

theorem length_scanUnit_lt {s rest : Text} {u : StringUnit} (h : scanUnit s = .ok (u, rest)) :
    rest.length < s.length := by
  unfold scanUnit at h
  split at h
  · cases h
  · simp only [Except.ok.injEq, Prod.mk.injEq] at h
    simp [← h.2]
  · cases h
  · next s =>
    match hs : scanHex s with
    | .error fault => simp [hs, Except.map] at h
    | .ok (n, rest') =>
      simp only [hs, Except.map, Except.ok.injEq, Prod.mk.injEq] at h
      have := length_scanHex_le hs
      simp only [← h.2, List.length_cons]
      omega
  · split at h
    · simp only [Except.ok.injEq, Prod.mk.injEq] at h
      simp only [← h.2, List.length_cons]
      omega
    · cases h
  · split at h
    · cases h
    · simp only [Except.ok.injEq, Prod.mk.injEq] at h
      simp [← h.2]

def isHighSurrogate (n : Nat) : Bool := 0xD800 ≤ n && n ≤ 0xDBFF

def isLowSurrogate (n : Nat) : Bool := 0xDC00 ≤ n && n ≤ 0xDFFF

/-- The second half of a character that is written as two code units. -/
def scanLow (high : Nat) : Text → Except Fault (Char × Text)
  | [] => .error .truncated
  | ['\\'] => .error .truncated
  | '\\' :: 'u' :: s =>
    match scanHex s with
    | .error fault => .error fault
    | .ok (low, s) =>
      if isLowSurrogate low then
        .ok (Char.ofNat (0x10000 + (high - 0xD800) * 0x400 + (low - 0xDC00)), s)
      else .error .malformed
  | _ => .error .malformed

theorem length_scanLow_lt {high : Nat} {s rest : Text} {c : Char}
    (h : scanLow high s = .ok (c, rest)) : rest.length < s.length := by
  unfold scanLow at h
  split at h
  · cases h
  · cases h
  · split at h
    · cases h
    · next hs =>
      split at h
      · simp only [Except.ok.injEq, Prod.mk.injEq] at h
        have := length_scanHex_le hs
        simp only [← h.2, List.length_cons]
        omega
      · cases h
  · cases h

/-- The content of a string, after its opening quote. -/
def scanString (s : Text) : Except Fault (Text × Text) :=
  match _h : scanUnit s with
  | .error fault => .error fault
  | .ok (.closing, s) => .ok ([], s)
  | .ok (.plain c, s) => (scanString s).map fun (a, s) => (c :: a, s)
  | .ok (.code n, s) =>
    if isLowSurrogate n then .error .malformed
    else if isHighSurrogate n then
      match _h' : scanLow n s with
      | .error fault => .error fault
      | .ok (c, s) => (scanString s).map fun (a, s) => (c :: a, s)
    else (scanString s).map fun (a, s) => (Char.ofNat n :: a, s)
termination_by s.length
decreasing_by
  · exact length_scanUnit_lt _h
  · exact Nat.lt_trans (length_scanLow_lt _h') (length_scanUnit_lt _h)
  · exact length_scanUnit_lt _h

/-- Passes over the content of a string; code units need not make characters. -/
def skipString (s : Text) : Except Fault Text :=
  match _h : scanUnit s with
  | .error fault => .error fault
  | .ok (.closing, s) => .ok s
  | .ok (_, s) => skipString s
termination_by s.length
decreasing_by exact length_scanUnit_lt _h

/-! ### Numbers -/

/-- A number as it is written. -/
structure NumberText where
  negative : Bool
  whole : Text
  fraction : Text
  exponent : Option Int
  deriving DecidableEq, Repr

/-- At least one digit. A text that ends here has the fault `atEnd`. -/
def scanDigits (atEnd : Fault) : Text → Except Fault (Text × Text)
  | [] => .error atEnd
  | c :: s =>
    if c.isDigit then .ok (c :: s.takeWhile Char.isDigit, s.dropWhile Char.isDigit)
    else .error .malformed

/-- Digits that do not start with a zero, unless they are nothing else. -/
def scanWhole (atEnd : Fault) : Text → Except Fault (Text × Text)
  | '0' :: c :: s => if c.isDigit then .error .malformed else .ok (['0'], c :: s)
  | s => scanDigits atEnd s

def scanFraction (atEnd : Fault) : Text → Except Fault (Text × Text)
  | '.' :: s => scanDigits atEnd s
  | s => .ok ([], s)

def scanExponent (atEnd : Fault) : Text → Except Fault (Option Int × Text)
  | [] => .ok (none, [])
  | c :: s =>
    if c = 'e' ∨ c = 'E' then do
      let (digits, rest) ← scanDigits atEnd (cutSign s).2
      let n : Int := digitsValue digits
      .ok (some (if (cutSign s).1 then -n else n), rest)
    else .ok (none, c :: s)

/-- A number, the first character of which is a digit or a minus sign. -/
def scanNumber (atEnd : Fault) (s : Text) : Except Fault (NumberText × Text) := do
  let (negative, s) := match s with
    | '-' :: s => (true, s)
    | s => (false, s)
  let (whole, s) ← scanWhole atEnd s
  let (fraction, s) ← scanFraction atEnd s
  let (exponent, s) ← scanExponent atEnd s
  .ok (⟨negative, whole, fraction, exponent⟩, s)

end LogFilter.Json
