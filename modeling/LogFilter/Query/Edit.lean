import LogFilter.Query.Clause
import LogFilter.Query.Quoting

/-!
# Edits

Changes to single clauses of a query. An edit at an index that is not there has no result, and no
edit moves the offsets of the other clauses.
-/

namespace LogFilter

inductive Edit where
  /-- A new clause before the index; the number of clauses is an index too. -/
  | insert (index : Nat) (clause : Clause)
  | setValue (index : Nat) (value : Text)
  | quoteValue (index : Nat)
  | unquoteValue (index : Nat)
  | remove (index : Nat)
  deriving DecidableEq, Repr

/-- Changes the value of the clause at an index. -/
def modifyValue? (f : Text → Text) (index : Nat) (clauses : List Clause) : Option (List Clause) :=
  if index < clauses.length then
    some (clauses.modify index fun c => { c with value := f c.value })
  else none

def Edit.perform? : Edit → List Clause → Option (List Clause)
  | .insert index clause, clauses =>
    if index ≤ clauses.length then some (clauses.insertIdx index clause) else none
  | .setValue index value, clauses => modifyValue? (fun _ => value) index clauses
  | .quoteValue index, clauses => modifyValue? quote index clauses
  | .unquoteValue index, clauses => modifyValue? unquote index clauses
  | .remove index, clauses =>
    if index < clauses.length then some (clauses.eraseIdx index) else none

end LogFilter
