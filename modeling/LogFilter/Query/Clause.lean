import LogFilter.Text.Basic

/-!
# Clauses

A query means a list of clauses: filters on a field, and runs of free text that search the body
of a log line. Equality is the only comparison, so a clause does not store it.
-/

namespace LogFilter

/-- What a clause is about. -/
inductive Key where
  | body
  | field (name : Text)
  deriving DecidableEq, Repr

namespace Key

/-- Stands for the body where keys are written out. It holds a character that no typed key has. -/
def bodyName : Text := "@body"

def text : Key → Text
  | body => bodyName
  | field name => name

def ofText (name : Text) : Key :=
  if name = bodyName then body else field name

theorem text_ofText (name : Text) : (ofText name).text = name := by
  unfold ofText
  split <;> simp_all [text]

end Key

/-- The comparison between a key and its value. -/
def equalsSign : Text := "="

/-- Offsets are unsigned 64-bit numbers. -/
def maxOffset : Nat := (1 <<< 64) - 1

structure Clause where
  key : Key
  /-- The value as typed, with its quotes. -/
  value : Text
  /-- The byte offset of the clause in the query that it comes from. -/
  start : Nat
  deriving DecidableEq, Repr

namespace Clause

def field (name value : Text) (start : Nat) : Clause := ⟨.field name, value, start⟩

def body (value : Text) (start : Nat) : Clause := ⟨.body, value, start⟩

def isBody (c : Clause) : Bool :=
  match c.key with
  | .body => true
  | .field _ => false

/-- The clause as it is typed. -/
def text (c : Clause) : Text :=
  match c.key with
  | .body => c.value
  | .field name => name ++ ':' :: c.value

/-- The offset just past the clause, or the largest offset where that is too large. -/
def stop (c : Clause) : Nat :=
  min (c.start + byteLength c.text) maxOffset

/-- Whether a cursor touches the clause, its two ends included. -/
def touches (cursor : Nat) (c : Clause) : Bool :=
  c.start ≤ cursor && cursor ≤ c.stop

end Clause

/-- The index of the first clause that a cursor touches. -/
def clauseAt? (cursor : Nat) (clauses : List Clause) : Option Nat :=
  clauses.findIdx? (·.touches cursor)

/-- The values given for one key, in order. -/
def valuesFor (key : Key) (clauses : List Clause) : List Text :=
  (clauses.filter (·.key = key)).map (·.value)

end LogFilter
