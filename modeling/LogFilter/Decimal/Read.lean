import LogFilter.Decimal.Binary64
import LogFilter.Text.Basic

/-!
# Reading numbers

Integers of 64 bits, and decimals with a point and an exponent.
-/

namespace LogFilter

def digitValue (c : Char) : Nat := c.toNat - '0'.toNat

/-- The number that decimal digits denote. -/
def digitsValue (digits : Text) : Nat :=
  digits.foldl (fun n c => 10 * n + digitValue c) 0

/-- A number that is nothing but digits. -/
def readDigits? (s : Text) : Option Nat :=
  if s ≠ [] ∧ s.all Char.isDigit then some (digitsValue s) else none

/-- Takes a sign off; a text without one is not negative. -/
def cutSign : Text → Bool × Text
  | '-' :: s => (true, s)
  | '+' :: s => (false, s)
  | s => (false, s)

/-- An integer with an optional sign, from `-2 ^ 63` to `2 ^ 63 - 1`. -/
def readInteger? (s : Text) : Option Int := do
  let n ← readDigits? (cutSign s).2
  if (cutSign s).1 then
    if n ≤ 1 <<< 63 then some (-n) else none
  else if n < 1 <<< 63 then some n else none

/-- The exponent that ends a decimal: nothing, or `e` and an integer of any size. -/
def readExponent? : Text → Option Int
  | [] => some 0
  | c :: s =>
    if c = 'e' ∨ c = 'E' then do
      let n ← readDigits? (cutSign s).2
      some (if (cutSign s).1 then -n else n)
    else none

/-- The digits after a point, and what follows them. -/
def cutFraction : Text → Text × Text
  | '.' :: s => (s.takeWhile Char.isDigit, s.dropWhile Char.isDigit)
  | s => ([], s)

/-- A decimal without sign: digits, of which there is at least one, an optional point among them,
an optional exponent. -/
def readUnsigned? (negative : Bool) (s : Text) : Option Binary64 := do
  let whole := s.takeWhile Char.isDigit
  let (fraction, rest) := cutFraction (s.dropWhile Char.isDigit)
  let exponent ← readExponent? rest
  if whole = [] ∧ fraction = [] then none
  else some (.ofDecimal negative (digitsValue (whole ++ fraction)) (exponent - fraction.length))

inductive FloatError where
  | empty
  | invalid
  deriving DecidableEq, Repr

namespace FloatError

def message : FloatError → Text
  | empty => "cannot parse float from empty string"
  | invalid => "invalid float literal"

end FloatError

/-- A decimal, or `inf`, `infinity` or `nan` in any case, with an optional sign. -/
def readFloat (s : Text) : Except FloatError Binary64 :=
  if s = [] then .error .empty
  else
    let (negative, rest) := cutSign s
    let word := rest.map Char.toLower
    if word = ("inf" : Text) ∨ word = ("infinity" : Text) then .ok (.infinite negative)
    else if word = ("nan" : Text) then .ok .nan
    else match readUnsigned? negative rest with
      | some x => .ok x
      | none => .error .invalid

end LogFilter
