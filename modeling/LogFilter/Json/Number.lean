import LogFilter.Json.Scan

/-!
# Numbers of JSON

A number without point and exponent is an integer where it fits in 64 bits, signed or not; any
other is a floating point number. It is computed from at most 64 bits of digits by one product or
quotient with a power of ten, and need not be the nearest one.
-/

namespace LogFilter.Json

inductive Number where
  | integer (n : Int)
  | float (x : Binary64)
  deriving DecidableEq, Repr

namespace Number

def found : Number → Found
  | integer n => .integer n
  | float x => .float x

/-- Adds digits to a number for as long as the result has 64 bits. Gives the result and how many
digits it took. -/
def accumulate (n : Nat) : Text → Nat × Nat
  | [] => (n, 0)
  | c :: digits =>
    if 10 * n + digitValue c < 1 <<< 64 then
      let (total, taken) := accumulate (10 * n + digitValue c) digits
      (total, taken + 1)
    else (n, 0)

/-- The product, or else the quotient, of a number and the floating point number nearest to a
power of ten. -/
def timesPower (x : Binary64) (divide : Bool) (power : Nat) : Binary64 :=
  match x, Binary64.ofQuotient false (Nat.pow 10 power) 1 with
  | .finite negative a e, .finite _ b f =>
    let (num, den) :=
      if divide then scaleDown a b (f - e) else scaleDown (a * b) 1 (-(e + f))
    .ofQuotient negative num den
  | x, _ => x

def isZero : Binary64 → Bool
  | .finite _ significand _ => significand == 0
  | _ => false

/-- Divides by a power of ten, in three steps at most: then nothing is left of the number. -/
def shrink : Nat → Binary64 → Nat → Binary64
  | 0, x, _ => x
  | steps + 1, x, power =>
    if power ≤ 308 then timesPower x true power
    else if isZero x then x
    else shrink steps (timesPower x true 308) (power - 308)

/-- The number `significand * 10 ^ exponent`, unless it is too large. -/
def scaled? (significand : Nat) (exponent : Int) : Option Binary64 :=
  let x := Binary64.ofQuotient false significand 1
  match exponent with
  | .ofNat e =>
    if isZero x then some x
    else if 308 < e then none
    else match timesPower x false e with
      | .infinite _ => none
      | x => some x
  | .negSucc e => some (shrink 4 x (e + 1))

def negate : Binary64 → Binary64
  | .finite negative significand exponent => .finite (!negative) significand exponent
  | .infinite negative => .infinite (!negative)
  | .nan => .nan

def ofFloat? (negative : Bool) (significand : Nat) (exponent : Int) : Option Number :=
  (scaled? significand exponent).map fun x => float (if negative then negate x else x)

/-- The number that a text denotes, unless it is too large. -/
def ofText? (t : NumberText) : Option Number :=
  let (whole, taken) := accumulate 0 t.whole
  let left := t.whole.length - taken
  if t.fraction = [] ∧ t.exponent = none ∧ left = 0 then
    if !t.negative then some (integer whole)
    else if whole ≠ 0 ∧ whole ≤ 1 <<< 63 then some (integer (-whole))
    else ofFloat? true whole 0
  else
    let (significand, places) := accumulate whole t.fraction
    ofFloat? t.negative significand ((left : Int) - places + t.exponent.getD 0)

end Number

/-- Reads a number, the first character of which is a digit or a minus sign. -/
def readNumber (s : Text) : Except Fault (Number × Text) := do
  let (t, s) ← scanNumber .truncated s
  match Number.ofText? t with
  | some n => .ok (n, s)
  | none => .error .malformed

end LogFilter.Json
