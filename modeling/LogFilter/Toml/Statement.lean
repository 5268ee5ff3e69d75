import LogFilter.Toml.Node
import LogFilter.Toml.Plain
import LogFilter.Toml.Quoted

/-!
# Statements of a TOML document

A document is a sequence of lines, each with at most one statement: a header, or a key with its
value. Values nest in brackets, up to a limit, and may go over several lines inside of them.
-/

namespace LogFilter.Toml

inductive Statement where
  | header (path : List Text) (key : Text)
  /-- The header of the next table of an array. -/
  | arrayHeader (path : List Text) (key : Text)
  | entry (path : List Text) (key : Text) (value : Node)

/-- Arrays and inline tables nest less deep than this, and dotted keys have fewer parts. -/
def depthLimit : Nat := 80

def isBareKeyChar (c : Char) : Bool := c.isAlphanum || c == '-' || c == '_'

/-- One part of a dotted key. -/
def scanKeyPart (s : Text) : Option (Text × Text) :=
  match s with
  | '"' :: s => scanBasic s
  | '\'' :: s => scanLiteral s
  | s =>
    if (s.takeWhile isBareKeyChar).isEmpty then none
    else some (s.takeWhile isBareKeyChar, s.dropWhile isBareKeyChar)

/-- A key of at most `parts` parts with dots between them, and the spaces around it. -/
def scanKeyParts : Nat → Text → Option (List Text × Text)
  | 0, _ => none
  | parts + 1, s => do
    let (part, s) ← scanKeyPart (skipSpaces s)
    match skipSpaces s with
    | '.' :: s => do
      let (path, s) ← scanKeyParts parts s
      some (part :: path, s)
    | s => some ([part], s)

/-- A key, its last part apart. -/
def scanKey (s : Text) : Option (List Text × Text × Text) := do
  let (parts, s) ← scanKeyParts (depthLimit - 1) s
  let key ← parts.getLast?
  some (parts.dropLast, key, s)

def skipComment (s : Text) : Text :=
  match s with
  | '#' :: s => s.dropWhile isVisible
  | s => s

/-- Passes over blanks, line ends and comments. -/
def skipFiller (inComment : Bool) : Text → Text
  | '\n' :: s => skipFiller false s
  | '\r' :: '\n' :: s => skipFiller false s
  | c :: s =>
    if inComment then (if isVisible c then skipFiller true s else c :: s)
    else if isSpace c then skipFiller false s
    else if c = '#' then skipFiller true s
    else c :: s
  | [] => []

/-- At most `count` items of an array, the first of which starts here or is missing, and the
bracket that ends it. -/
def scanItems (value : Text → Option (Node × Text)) : Nat → Text → Option (List Node × Text)
  | 0, _ => none
  | count + 1, s =>
    match skipFiller false s with
    | ']' :: s => some ([], s)
    | s => do
      let (item, s) ← value s
      match skipFiller false s with
      | ']' :: s => some ([item], s)
      | ',' :: s => do
        let (items, s) ← scanItems value count s
        some (item :: items, s)
      | _ => none

/-- A key, an equals sign and a value, with the spaces around them. -/
def scanEntry (value : Text → Option (Node × Text)) (s : Text) :
    Option ((List Text × Text × Node) × Text) := do
  let (path, key, s) ← scanKey s
  let s ← skipChar? '=' s
  let (node, s) ← value (skipSpaces s)
  some ((path, key, node), skipSpaces s)

/-- At most `count` entries of an inline table, of which there is at least one, and the bracket
that ends it. -/
def scanEntries (value : Text → Option (Node × Text)) :
    Nat → Table → Text → Option (Table × Text)
  | 0, _, _ => none
  | count + 1, t, s => do
    let ((path, key, node), s) ← scanEntry value s
    let t ← t.assign? path key node
    match s with
    | '\x7d' :: s => some (t, s)
    | ',' :: s => scanEntries value count t s
    | _ => none

/-- A value in which brackets nest at most `depth` deep. -/
def scanValue : Nat → Text → Option (Node × Text)
  | depth, '[' :: s =>
    match depth with
    | 0 => none
    | depth + 1 => (scanItems (scanValue depth) (s.length + 1) s).map fun (items, s) =>
      (.array items, s)
  | depth, '\x7b' :: s =>
    match depth, skipSpaces s with
    | 0, _ => none
    | _ + 1, '\x7d' :: s => some (.inline [], s)
    | depth + 1, s =>
      (scanEntries (scanValue depth) (s.length + 1) (.empty .header) s).map fun (t, s) =>
        (.inline t.entries, s)
  | _, '"' :: s => (scanQuoted ('"' :: s)).map fun (a, s) => (.text a, s)
  | _, '\'' :: s => (scanQuoted ('\'' :: s)).map fun (a, s) => (.text a, s)
  | _, s => (skipPlain? s).map (.plain, ·)

/-- Goes to the next line, through spaces and a comment. -/
def endLine? (s : Text) : Option Text :=
  match skipComment (skipSpaces s) with
  | [] => some []
  | s => newline? s

/-- A header between single or double brackets. -/
def scanHeader (s : Text) : Option (Statement × Text) :=
  match s with
  | '[' :: s => do
    let (path, key, s) ← scanKey s
    let s ← skipChar? ']' s
    let s ← skipChar? ']' s
    some (.arrayHeader path key, s)
  | s => do
    let (path, key, s) ← scanKey s
    let s ← skipChar? ']' s
    some (.header path key, s)

/-- The statement that a line begins with, where there is one. -/
def scanStatement (s : Text) : Option (Option Statement × Text) :=
  match skipSpaces s with
  | [] => some (none, [])
  | '#' :: s => some (none, '#' :: s)
  | '\n' :: s => some (none, '\n' :: s)
  | '\r' :: s => some (none, '\r' :: s)
  | '[' :: s => (scanHeader s).map fun (h, s) => (some h, s)
  | s => (scanEntry (scanValue (depthLimit - 1)) s).map fun ((path, key, node), s) =>
    (some (.entry path key node), s)

/-- The statements of at most `count` lines. -/
def scanLines : Nat → Text → Option (List Statement)
  | _, [] => some []
  | 0, _ => none
  | count + 1, s => do
    let (statement, s) ← scanStatement s
    let s ← endLine? s
    let statements ← scanLines count s
    some (statement.toList ++ statements)

/-- The statements of a document. A byte order mark may come first. -/
def statements? (s : Text) : Option (List Statement) :=
  let s := match s with
    | '\ufeff' :: s => s
    | s => s
  scanLines s.length s

end LogFilter.Toml
