import LogFilter.Decimal.Read
import LogFilter.Text.Hex

/-!
# Plain values of TOML

Truth values, numbers, dates and times: the values that are written as one word. What they denote
is not needed, only whether they are well-formed.
-/

namespace LogFilter.Toml

/-- The characters of plain values. -/
def isPlainChar (c : Char) : Bool :=
  c.isAlphanum || c == '+' || c == '-' || c == '_' || c == '.' || c == ':'

/-- Digits that may have single underscores between them, without the underscores. -/
def ungroup? (isDigit : Char → Bool) (s : Text) : Option Text :=
  let groups := s.splitAt '_'
  if groups.all fun g => !g.isEmpty && g.all isDigit then some groups.flatten else none

/-- The digits of a decimal integer without sign: a zero, or no zero in front. -/
def wholeDigits? (s : Text) : Option Text := do
  let digits ← ungroup? Char.isDigit s
  if digits.head? = some '0' ∧ digits.length ≠ 1 then none else some digits

/-- The value of digits in a base. -/
def baseValue (base : Nat) (digits : Text) : Nat :=
  digits.foldl (fun n c => base * n + (hexValue? c).getD 0) 0

/-- Whether a text is an integer of 64 bits in a base other than ten. -/
def isBased (base : Nat) (s : Text) : Bool :=
  match ungroup? (fun c => (hexValue? c).any (· < base)) s with
  | some digits => baseValue base digits < 1 <<< 63
  | none => false

def isInteger (s : Text) : Bool :=
  match s with
  | '0' :: 'x' :: s => isBased 16 s
  | '0' :: 'o' :: s => isBased 8 s
  | '0' :: 'b' :: s => isBased 2 s
  | s =>
    match wholeDigits? (cutSign s).2 with
    | some digits =>
      digitsValue digits < if (cutSign s).1 then (1 <<< 63) + 1 else 1 <<< 63
    | none => false

/-- Cuts a text before the first character of a kind. -/
def cutBefore (isMark : Char → Bool) (s : Text) : Text × Text :=
  (s.takeWhile (!isMark ·), s.dropWhile (!isMark ·))

/-- The number that a text in the form of a decimal denotes: there is a point or an exponent. -/
def decimal? (s : Text) : Option Binary64 := do
  let (negative, s) := cutSign s
  let (mantissa, exponent) := cutBefore (fun c => c == 'e' || c == 'E') s
  let (whole, fraction) := cutBefore (· == '.') mantissa
  let whole ← wholeDigits? whole
  let fraction ← match fraction with
    | [] => some []
    | _ :: s => ungroup? Char.isDigit s
  let power : Int ← match exponent with
    | [] => some 0
    | _ :: s => do
      let digits ← ungroup? Char.isDigit (cutSign s).2
      some (if (cutSign s).1 then -(digitsValue digits : Int) else digitsValue digits)
  if fraction = [] ∧ exponent = [] then none
  else some (.ofDecimal negative (digitsValue (whole ++ fraction)) (power - fraction.length))

/-- Numbers too large are refused above zero, and become infinite below. -/
def isFloat (s : Text) : Bool :=
  let word := (cutSign s).2
  word == "inf" || word == "nan" ||
    match decimal? s with
    | some x => x ≠ .infinite false
    | none => false

/-- A number of two digits that is at most `limit`. -/
def scanPair? (limit : Nat) : Text → Option (Nat × Text)
  | a :: b :: s =>
    if a.isDigit ∧ b.isDigit ∧ digitsValue [a, b] ≤ limit then some (digitsValue [a, b], s)
    else none
  | _ => none

def skipChar? (c : Char) : Text → Option Text
  | d :: s => if d = c then some s else none
  | [] => none

def isLeapYear (year : Nat) : Bool :=
  year % 4 == 0 && (year % 100 != 0 || year % 400 == 0)

def daysInMonth (year month : Nat) : Nat :=
  if month = 2 then (if isLeapYear year then 29 else 28)
  else if month = 4 ∨ month = 6 ∨ month = 9 ∨ month = 11 then 30
  else 31

/-- Takes a date off that exists in the calendar. -/
def skipDate? (s : Text) : Option Text := do
  let year := s.take 4
  if year.length ≠ 4 ∨ !year.all Char.isDigit then none
  let s ← skipChar? '-' (s.drop 4)
  let (month, s) ← scanPair? 12 s
  let s ← skipChar? '-' s
  let (day, s) ← scanPair? (daysInMonth (digitsValue year) month) s
  if month = 0 ∨ day = 0 then none else some s

/-- Takes a time of day off. A minute may have a leap second, a second any number of places. -/
def skipTime? (s : Text) : Option Text := do
  let (_, s) ← scanPair? 23 s
  let s ← skipChar? ':' s
  let (_, s) ← scanPair? 59 s
  let s ← skipChar? ':' s
  let (_, s) ← scanPair? 60 s
  match s with
  | '.' :: s => if (s.takeWhile Char.isDigit).isEmpty then none else some (s.dropWhile Char.isDigit)
  | s => some s

/-- Whether a text is the distance from universal time that may end a time with a date. -/
def isTimeZone (s : Text) : Bool :=
  match s with
  | [] => true
  | ['Z'] => true
  | ['z'] => true
  | c :: s =>
    (c == '+' || c == '-') &&
      (do
        let (_, s) ← scanPair? 23 s
        let s ← skipChar? ':' s
        let (_, s) ← scanPair? 59 s
        some s) == some []

def isTimeOfDay (s : Text) : Bool := skipTime? s == some []

/-- A time that may come after a date, with its distance from universal time. -/
def isZonedTime (s : Text) : Bool := (skipTime? s).any isTimeZone

/-- A date, alone or joined to a time by a letter. -/
def isDate (s : Text) : Bool :=
  match skipDate? s with
  | none => false
  | some [] => true
  | some (c :: s) => (c == 'T' || c == 't') && isZonedTime s

/-- Whether a word is a plain value. -/
def isPlain (s : Text) : Bool :=
  s == "true" || s == "false" || isInteger s || isFloat s || isDate s || isTimeOfDay s

/-- Takes a plain value off. A date and a time may also be joined by a space. -/
def skipPlain? (s : Text) : Option Text :=
  let word := s.takeWhile isPlainChar
  let rest := s.dropWhile isPlainChar
  if isPlain word then
    match rest with
    | ' ' :: after =>
      if skipDate? word = some [] ∧ isZonedTime (after.takeWhile isPlainChar) then
        some (after.dropWhile isPlainChar)
      else some rest
    | _ => some rest
  else none

end LogFilter.Toml
