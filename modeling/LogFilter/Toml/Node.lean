import LogFilter.Text.Basic

/-!
# TOML documents

A document is a tree of tables. What may still be added to a table depends on how it came to be,
so a table keeps its origin while the document is built.
-/

namespace LogFilter.Toml

inductive Origin where
  /-- Named by a header of its own; so is the root, and each table of an array of tables. -/
  | header
  /-- Implied by a header of a table inside it. -/
  | implied
  /-- Implied by a dotted key. -/
  | dotted
  deriving DecidableEq, Repr

inductive Node where
  | text (s : Text)
  /-- A number, a truth value, a date or a time. -/
  | plain
  | array (items : List Node)
  /-- A table written as a value, to which nothing can be added. -/
  | inline (entries : List (Text × Node))
  | table (origin : Origin) (entries : List (Text × Node))
  /-- An array of tables, each with a header of its own. -/
  | tables (items : List (List (Text × Node)))

structure Table where
  origin : Origin
  entries : List (Text × Node)

namespace Table

def empty (origin : Origin) : Table := ⟨origin, []⟩

def get? (t : Table) (key : Text) : Option Node := t.entries.lookup key

/-- Gives a key its node, in place of the one it has. -/
def put (t : Table) (key : Text) (node : Node) : Table :=
  if (t.get? key).isSome then
    { t with entries := t.entries.map fun e => if e.1 = key then (key, node) else e }
  else { t with entries := t.entries ++ [(key, node)] }

def toNode (t : Table) : Node := .table t.origin t.entries

/-- Changes the table at a path below a table. Tables that are missing are made with the given
origin; a path of an array of tables leads to its last table. Dotted keys do not reach into a
table that has a header. -/
def modifyAt? (origin : Origin) (change : Table → Option Table) :
    List Text → Table → Option Table
  | [], t => change t
  | key :: path, t =>
    match t.get? key with
    | none => do
      let child ← modifyAt? origin change path (empty origin)
      some (t.put key child.toNode)
    | some (.table o entries) =>
      if origin = .dotted ∧ o = .header then none
      else do
        let child ← modifyAt? origin change path ⟨o, entries⟩
        some (t.put key child.toNode)
    | some (.tables items) => do
      let last ← items.getLast?
      let child ← modifyAt? origin change path ⟨.header, last⟩
      some (t.put key (.tables (items.dropLast ++ [child.entries])))
    | some _ => none

/-- Gives a new key its value. -/
def add? (key : Text) (value : Node) (t : Table) : Option Table :=
  if (t.get? key).isSome then none else some (t.put key value)

/-- Gives a dotted key its value. The table that the value goes into has to come from dotted keys
as well, unless the key is not dotted after all. -/
def assign? (path : List Text) (key : Text) (value : Node) (t : Table) : Option Table :=
  modifyAt? .dotted
    (fun t => if t.origin = .dotted ↔ path = [] then none else t.add? key value) path t

/-- Opens a table by its header. A header comes once, but a table may be implied before it. -/
def define? (key : Text) (t : Table) : Option Table :=
  match t.get? key with
  | none => some (t.put key (.table .header []))
  | some (.table .implied entries) => some (t.put key (.table .header entries))
  | some _ => none

/-- Adds a table to an array of tables. -/
def push? (key : Text) (t : Table) : Option Table :=
  match t.get? key with
  | none => some (t.put key (.tables [[]]))
  | some (.tables items) => some (t.put key (.tables (items ++ [[]])))
  | some _ => none

end Table

end LogFilter.Toml
