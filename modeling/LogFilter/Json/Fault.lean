import LogFilter.Decimal.Shortest
import LogFilter.Text.Escaped

/-!
# Faults of JSON text

Why a text is not the JSON of a list of clauses. A text is read from left to right, and the first
fault found is the one that counts.
-/

namespace LogFilter.Json

/-- A JSON value that stands where another kind of value belongs. -/
inductive Found where
  | null
  | bool (b : Bool)
  | integer (n : Int)
  | float (x : Binary64)
  | text (s : Text)
  | list
  | object
  deriving DecidableEq, Repr

/-- Floating point numbers in faults have a point, and an exponent where they are large or small. -/
def floatText : Binary64 → Text
  | .finite negative significand exponent =>
    let d := Decimal.shortest .even significand exponent
    let digits := Text.ofNat d.digits
    let point : Int := digits.length + d.exponent
    signText negative ++
      if -5 < point ∧ point ≤ 16 then
        d.positional ++ (if d.exponent < 0 then [] else ".0")
      else
        digits.take 1 ++ (if digits.length = 1 then [] else '.' :: digits.drop 1) ++
          (if 0 < point then "e+" else "e") ++ Text.ofInt (point - 1)
  | .infinite negative => signText negative ++ "inf"
  | .nan => "NaN"

namespace Found

def phrase : Found → Text
  | null => "null"
  | bool b => "boolean \x60" ++ (if b then "true" else "false") ++ "\x60"
  | integer n => "integer \x60" ++ Text.ofInt n ++ "\x60"
  | float x => "floating point \x60" ++ floatText x ++ "\x60"
  | text s => "string " ++ s.escaped
  | list => "sequence"
  | object => "map"

end Found

/-- What belongs in a place. -/
inductive Expected where
  | clauses
  | clause
  | text
  | offset
  | operator
  | null
  deriving DecidableEq, Repr

namespace Expected

def phrase : Expected → Text
  | clauses => "a sequence"
  | clause => "struct Clause"
  | text => "a string"
  | offset => "usize"
  | operator => "variant identifier"
  | null => "unit"

end Expected

/-- Well-formed JSON that is not a clause. -/
inductive Mismatch where
  | wrongType (found : Found) (expected : Expected)
  | wrongValue (found : Found) (expected : Expected)
  | unknownOperator (name : Text)
  | missingField (name : Text)
  | duplicateField (name : Text)
  /-- A clause written as a list that ends too early. -/
  | shortClause (length : Nat)
  deriving DecidableEq, Repr

namespace Mismatch

def message : Mismatch → Text
  | wrongType found expected => "invalid type: " ++ found.phrase ++ ", expected " ++ expected.phrase
  | wrongValue found expected => "invalid value: " ++ found.phrase ++ ", expected " ++ expected.phrase
  | unknownOperator name => "unknown variant \x60" ++ name ++ "\x60, expected \x60=\x60"
  | missingField name => "missing field \x60" ++ name ++ "\x60"
  | duplicateField name => "duplicate field \x60" ++ name ++ "\x60"
  | shortClause length =>
    "invalid length " ++ Text.ofNat length ++ ", expected struct Clause with 4 elements"

end Mismatch

inductive Fault where
  /-- The text breaks the rules of JSON. -/
  | malformed
  /-- The text ends too early. -/
  | truncated
  | mismatch (m : Mismatch)
  deriving DecidableEq, Repr

end LogFilter.Json
