import LogFilter.Toml.Statement

/-!
# Reading a TOML document

The statements of a document are carried out one after the other on its root table. A statement
that defines something twice makes the whole document wrong.
-/

namespace LogFilter.Toml

/-- A document that is being read: what there is so far, and the table that entries go into. -/
structure Reading where
  root : Table
  current : List Text

namespace Reading

def start : Reading := ⟨.empty .header, []⟩

def perform? (r : Reading) : Statement → Option Reading
  | .header path key =>
    (Table.modifyAt? .implied (Table.define? key) path r.root).map (⟨·, path ++ [key]⟩)
  | .arrayHeader path key =>
    (Table.modifyAt? .implied (Table.push? key) path r.root).map (⟨·, path ++ [key]⟩)
  | .entry path key value =>
    (Table.modifyAt? .implied (Table.assign? path key value) r.current r.root).map (⟨·, r.current⟩)

end Reading

/-- The root table of a document. -/
def read? (s : Text) : Option Table := do
  let statements ← statements? s
  let r ← statements.foldlM Reading.perform? .start
  some r.root

end LogFilter.Toml
