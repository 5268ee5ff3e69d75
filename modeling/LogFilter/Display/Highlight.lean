import LogFilter.Display.Paint
import LogFilter.Query.Clause

/-!
# Highlighting

A query is shown with each clause painted by kind, and all else copied. A clause that does not
stand in the text at its offset, or that begins inside an earlier one, is passed over.
-/

namespace LogFilter

/-- A clause in its place: the text before it, its own text, and the text after it. -/
structure Placed where
  before : Text
  own : Text
  after : Text

namespace Clause

/-- The value that a text gives to the clause's key: all of it for the body, and what stands
after the key and a colon for a field. -/
def valueIn? (c : Clause) (s : Text) : Option Text :=
  match c.key with
  | .body => some s
  | .field name => Text.dropStart? (name ++ [':']) s

/-- Finds the clause in the text that remains from `pos` on. -/
def locate? (c : Clause) (pos : Nat) (rest : Text) : Option Placed :=
  if pos ≤ c.start then do
    let (before, rest) ← Text.splitBytes? (c.start - pos) rest
    let (own, after) ← Text.splitBytes? (c.stop - c.start) rest
    let _ ← c.valueIn? own
    some ⟨before, own, after⟩
  else none

/-- The painted text of a clause that is typed as `own`. -/
def painted (colored : Bool) (c : Clause) (own : Text) : Text :=
  match c.key, c.valueIn? own with
  | .body, _ => paint colored .white own
  | .field name, some (v :: value) =>
    paint colored .boldCyan name ++ paint colored .dim ":" ++ paint colored .green (v :: value)
  | .field _, _ => paint colored .underlinedRed own

end Clause

/-- Highlights the text that remains from `pos` on. -/
def highlightFrom (colored : Bool) (pos : Nat) (rest : Text) : List Clause → Text
  | [] => rest
  | c :: clauses =>
    match c.locate? pos rest with
    | some ⟨before, own, after⟩ =>
      before ++ c.painted colored own ++ highlightFrom colored c.stop after clauses
    | none => highlightFrom colored pos rest clauses

def highlight (colored : Bool) (s : Text) (clauses : List Clause) : Text :=
  highlightFrom colored 0 s clauses

end LogFilter
