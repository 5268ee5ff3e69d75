/-!
# Binary floating point

Numbers of the IEEE 754 format `binary64`, kept as an exact integer times a power of two.
-/

namespace LogFilter

inductive Binary64 where
  /-- The number `significand * 2 ^ exponent`, or its opposite. -/
  | finite (negative : Bool) (significand : Nat) (exponent : Int)
  | infinite (negative : Bool)
  | nan
  deriving DecidableEq, Repr

/-- The integer nearest to a quotient; a tie goes to the even one. -/
def roundQuotient (num den : Nat) : Nat :=
  let q := num / den
  let twice := 2 * (num % den)
  if twice < den then q
  else if den < twice then q + 1
  else if q % 2 = 0 then q else q + 1

/-- The quotient `num / (den * 2 ^ e)` as one fraction. -/
def scaleDown (num den : Nat) : Int → Nat × Nat
  | .ofNat e => (num, den <<< e)
  | .negSucc e => (num <<< (e + 1), den)

namespace Binary64

/-- The exponent of the subnormal numbers, which is the least. -/
def minExponent : Int := -1074

def maxExponent : Int := 971

def zero (negative : Bool) : Binary64 := finite negative 0 minExponent

/-- The number with the given bits: sign, eleven bits of exponent, 52 bits of fraction. -/
def ofBits (bits : Nat) : Binary64 :=
  let negative := (bits >>> 63) % 2 == 1
  let exponent : Nat := (bits >>> 52) % (1 <<< 11)
  let fraction : Nat := bits % (1 <<< 52)
  if exponent = 2047 then
    if fraction = 0 then infinite negative else nan
  else if exponent = 0 then finite negative fraction minExponent
  else finite negative ((1 <<< 52) + fraction) ((exponent : Int) - 1075)

/-- The integer part of the binary logarithm of a positive quotient. -/
def log2Quotient (num den : Nat) : Int :=
  let k : Int := (Nat.log2 num : Int) - Nat.log2 den
  let (a, b) := scaleDown num den k
  if b ≤ a then k else k - 1

/-- The number nearest to a quotient; a tie goes to the even significand. -/
def ofQuotient (negative : Bool) (num den : Nat) : Binary64 :=
  if num = 0 then zero negative
  else
    let exponent := max (log2Quotient num den - 52) minExponent
    let (a, b) := scaleDown num den exponent
    let significand := roundQuotient a b
    let (significand, exponent) :=
      if significand = 1 <<< 53 then (1 <<< 52, exponent + 1) else (significand, exponent)
    if maxExponent < exponent then infinite negative else finite negative significand exponent

/-- The number nearest to `digits * 10 ^ exponent`. Past 400 places on either side the result
does not depend on the digits. -/
def ofDecimal (negative : Bool) (digits : Nat) (exponent : Int) : Binary64 :=
  let places : Int := (Nat.toDigits 10 digits).length + exponent
  if digits = 0 ∨ places < -400 then zero negative
  else if 400 < places then infinite negative
  else match exponent with
    | .ofNat e => ofQuotient negative (digits * Nat.pow 10 e) 1
    | .negSucc e => ofQuotient negative digits (Nat.pow 10 (e + 1))

end Binary64

end LogFilter
