import LogFilter.Decimal.Read
import LogFilter.Decimal.Shortest
import LogFilter.Query.Quoting

/-!
# Scalars

The values that a caller can put into a query. Numbers need no quotes.
-/

namespace LogFilter

inductive Scalar where
  | text (s : Text)
  | integer (n : Int)
  | float (x : Binary64)
  deriving DecidableEq, Repr

namespace Scalar

/-- The scalar without quotes. -/
def plain : Scalar → Text
  | text s => s
  | integer n => Text.ofInt n
  | float x => x.text

/-- The scalar as one value of a query. -/
def quoted : Scalar → Text
  | text s => quote s
  | integer n => Text.ofInt n
  | float x => x.text

/-- Reads a number: an integer of 64 bits if it is one, else a floating point number. -/
def readNumber (s : Text) : Except FloatError Scalar :=
  match readInteger? s with
  | some n => .ok (integer n)
  | none => (readFloat s).map float

end Scalar

end LogFilter
