import LogFilter.Decimal.Binary64
import LogFilter.Text.Basic

/-!
# Shortest decimals

The decimal with the fewest digits that reads back as a given floating point number, and of those
the nearest one. It is found on the coarsest grid of multiples of a power of ten that has a point
among the reals which round to the number.
-/

namespace LogFilter

/-- The number `digits * 10 ^ exponent`. -/
structure Decimal where
  digits : Nat
  exponent : Int
  deriving DecidableEq, Repr

/-- Which of two equally near neighbours is taken. -/
inductive TieRule where
  | up
  | even
  deriving DecidableEq, Repr

namespace Decimal

/-- The point of a grid next to a value: the value is `num / den` grid steps, and the reals that
round to it reach from `low / den` to `high / den`, with the ends or without. -/
def onGrid? (tie : TieRule) (ends : Bool) (low num high den : Nat) : Option Nat :=
  let down := num / den
  let inside (j : Nat) : Bool :=
    if ends then low ≤ j * den && j * den ≤ high else low < j * den && j * den < high
  match inside down, inside (down + 1) with
  | true, true =>
    let twice := 2 * (num % den)
    if twice < den then some down
    else if den < twice then some (down + 1)
    else match tie with
      | .up => some (down + 1)
      | .even => some (if down % 2 = 0 then down else down + 1)
  | true, false => some down
  | false, true => some (down + 1)
  | false, false => none

/-- A power of ten, or of two, as a fraction. -/
def power (base : Nat) : Int → Nat × Nat
  | .ofNat e => (base.pow e, 1)
  | .negSucc e => (1, base.pow (e + 1))

/-- The shortest decimal of `significand * 2 ^ exponent` on the grid of multiples of `10 ^ k`. The
value and the ends of its interval are counted in quarters of `2 ^ exponent`. -/
def onPowerOfTen? (tie : TieRule) (significand : Nat) (exponent k : Int) : Option Decimal :=
  let (twoNum, twoDen) := power 2 (exponent - 2)
  let (tenNum, tenDen) := power 10 k
  let value := 4 * significand
  let low :=
    if significand = 1 <<< 52 ∧ Binary64.minExponent < exponent then value - 1 else value - 2
  let scale := twoNum * tenDen
  (onGrid? tie (significand % 2 = 0) (low * scale) (value * scale) ((value + 2) * scale)
    (tenNum * twoDen)).map (⟨·, k⟩)

/-- A power of ten above `significand * 2 ^ exponent` and less than a thousand times it. -/
def aboveExponent (significand : Nat) (exponent : Int) : Int :=
  ((Nat.log2 significand + 1 : Int) + exponent) * 30103 / 100000 + 1

/-- Seventeen digits always suffice, so that one of twenty grids is fine enough. -/
def shortest (tie : TieRule) (significand : Nat) (exponent : Int) : Decimal :=
  if significand = 0 then ⟨0, 0⟩
  else
    let top := aboveExponent significand exponent
    ((List.range 21).findSome? fun (i : Nat) => onPowerOfTen? tie significand exponent (top - i)).getD
      ⟨0, 0⟩

/-- The decimal written without an exponent. -/
def positional (d : Decimal) : Text :=
  let digits := Text.ofNat d.digits
  match d.exponent with
  | .ofNat e => if d.digits = 0 then digits else digits ++ List.replicate e '0'
  | .negSucc e =>
    let places := e + 1
    if places < digits.length then
      digits.take (digits.length - places) ++ '.' :: digits.drop (digits.length - places)
    else "0." ++ List.replicate (places - digits.length) '0' ++ digits

end Decimal

/-- A minus sign where a number is negative. -/
def signText (negative : Bool) : Text :=
  if negative then "-" else ""

/-- The number with its shortest digits and without an exponent; zero keeps its sign. -/
def Binary64.text : Binary64 → Text
  | .finite negative significand exponent =>
    signText negative ++ (Decimal.shortest .up significand exponent).positional
  | .infinite negative => signText negative ++ "inf"
  | .nan => "NaN"

end LogFilter
