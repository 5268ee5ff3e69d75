import LogFilter.Profile
import LogFilter.Toml.Document

/-!
# Reading a profile

A profile is a TOML document with the entries `profile_name`, `known_keys` and `format`. An entry
that is missing keeps the value of the base profile, and entries of other names are ignored.
-/

namespace LogFilter

open Toml

namespace OutputFormat

def name : OutputFormat → Text
  | text => "text"
  | json => "json"

def ofName? (s : Text) : Option OutputFormat :=
  [text, json].find? (·.name = s)

end OutputFormat

namespace Toml.Node

def text? : Node → Option Text
  | text s => some s
  | _ => none

def texts? : Node → Option (List Text)
  | array items => items.mapM text?
  | _ => none

/-- Whether a node is a table or an array without content. -/
def isHollow : Node → Bool
  | array [] => true
  | inline [] => true
  | table _ [] => true
  | tables [] => true
  | _ => false

/-- A format is given by its name, or by a table of one entry under its name, which is hollow. -/
def format? : Node → Option OutputFormat
  | text s => OutputFormat.ofName? s
  | inline [(name, node)] => if node.isHollow then OutputFormat.ofName? name else none
  | table _ [(name, node)] => if node.isHollow then OutputFormat.ofName? name else none
  | _ => none

end Toml.Node

namespace Profile

/-- The entry of a table, read by `read?`, or else a default. -/
def entry? {α : Type} (t : Toml.Table) (key : Text) (default : α) (read? : Node → Option α) : Option α :=
  match t.get? key with
  | none => some default
  | some node => read? node

def ofToml? (s : Text) : Option Profile := do
  let t ← Toml.read? s
  let name ← entry? t "profile_name" base.name Node.text?
  let knownKeys ← entry? t "known_keys" base.knownKeys Node.texts?
  let format ← entry? t "format" base.format fun node => node.format?.map some
  some ⟨name, knownKeys, format⟩

end Profile

end LogFilter
