import LogFilter.Query.Clause

/-!
# Problems of a query

A clause without a value is a problem; a query without problems is valid.
-/

namespace LogFilter

inductive Problem where
  | emptyValue (key : Text) (offset : Nat)
  | emptyBody (offset : Nat)
  deriving DecidableEq, Repr

namespace Problem

def offset : Problem → Nat
  | emptyValue _ offset => offset
  | emptyBody offset => offset

def message : Problem → Text
  | emptyValue key offset => "Empty value for '" ++ key ++ "' at offset " ++ Text.ofNat offset
  | emptyBody offset => "Empty search text at offset " ++ Text.ofNat offset

end Problem

def Clause.problem? (c : Clause) : Option Problem :=
  if c.value = [] then
    match c.key with
    | .body => some (.emptyBody c.start)
    | .field name => some (.emptyValue name c.start)
  else none

def problems (clauses : List Clause) : List Problem :=
  clauses.filterMap Clause.problem?

def isValid (clauses : List Clause) : Bool :=
  clauses.all fun c => !c.value.isEmpty

end LogFilter
