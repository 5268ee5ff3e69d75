import LogFilter.Json.Number
import LogFilter.Json.Skip
import LogFilter.Json.Write
import LogFilter.Query.Clause

/-!
# Clauses as JSON

A clause is written as an object with the fields `key`, `operator`, `value` and `offsetStart`. It
is read from these fields in any order and among others, or from a list of the four values. The
operator is the text `=`, or an object that gives it the value `null`.
-/

namespace LogFilter

namespace Clause

def toJson (c : Clause) : Json :=
  .object [("key", .text c.key.text), ("operator", .text equalsSign), ("value", .text c.value),
    ("offsetStart", .number c.start)]

end Clause

def clausesToJson (clauses : List Clause) : Json :=
  .list (clauses.map Clause.toJson)

namespace Json

/-- The fault of a value that starts with the first character of `s` and is of the wrong type.
A value without brackets has to be complete to be called one. -/
def refusal (expected : Expected) (s : Text) : Fault :=
  let wrong (found : Found) : Fault := .mismatch (.wrongType found expected)
  let after (word : Text) (s : Text) (found : Found) : Fault :=
    match skipWord word s with
    | .ok _ => wrong found
    | .error fault => fault
  match s with
  | [] => .malformed
  | 'n' :: s => after "ull" s .null
  | 't' :: s => after "rue" s (.bool true)
  | 'f' :: s => after "alse" s (.bool false)
  | '[' :: _ => wrong .list
  | '\x7b' :: _ => wrong .object
  | '"' :: s =>
    match scanString s with
    | .ok (content, _) => wrong (.text content)
    | .error fault => fault
  | c :: s =>
    if c = '-' ∨ c.isDigit then
      match readNumber (c :: s) with
      | .ok (n, _) => wrong n.found
      | .error fault => fault
    else .malformed

def readText (expected : Expected) (s : Text) : Except Fault (Text × Text) :=
  match skipBlanks s with
  | [] => .error .truncated
  | '"' :: s => scanString s
  | s => .error (refusal expected s)

def readOffset (s : Text) : Except Fault (Nat × Text) :=
  match skipBlanks s with
  | [] => .error .truncated
  | c :: s =>
    if c = '-' ∨ c.isDigit then
      match readNumber (c :: s) with
      | .error fault => .error fault
      | .ok (.integer (.ofNat n), s) => .ok (n, s)
      | .ok (.integer n, _) => .error (.mismatch (.wrongValue (.integer n) .offset))
      | .ok (.float x, _) => .error (.mismatch (.wrongType (.float x) .offset))
    else .error (refusal .offset (c :: s))

def readNull (s : Text) : Except Fault Text :=
  match skipBlanks s with
  | [] => .error .truncated
  | 'n' :: s => skipWord "ull" s
  | s => .error (refusal .null s)

/-- Takes the name of the operator off. -/
def readOperatorName (s : Text) : Except Fault Text := do
  let (name, s) ← readText .operator s
  if name = equalsSign then .ok s else .error (.mismatch (.unknownOperator name))

def readOperator (s : Text) : Except Fault Text :=
  match skipBlanks s with
  | [] => .error .truncated
  | '"' :: s => readOperatorName ('"' :: s)
  | '\x7b' :: s => do
    let s ← readOperatorName s
    let s ← skipMark ':' s
    let s ← readNull s
    skipMark '\x7d' s
  | _ => .error .malformed

/-- Goes to an item of a list, or through the bracket that ends it. The first item has no comma
before it. -/
def nextItem (first : Bool) (s : Text) : Except Fault (Option Text) :=
  match skipBlanks s with
  | [] => .error .truncated
  | ']' :: _ => .ok none
  | c :: s =>
    if first then .ok (some (c :: s))
    else if c = ',' then
      match skipBlanks s with
      | [] => .error .truncated
      | ']' :: _ => .error .malformed
      | s => .ok (some s)
    else .error .malformed

/-- Takes off the bracket that ends a list. -/
def endList (s : Text) : Except Fault Text := skipMark ']' s

/-- The item of a clause that is written as a list, or its length where it ends here. -/
def item (index : Nat) (s : Text) : Except Fault Text := do
  match ← nextItem (index = 0) s with
  | some s => .ok s
  | none => .error (.mismatch (.shortClause index))

/-- A clause from a list, after the opening bracket. -/
def readClauseList (s : Text) : Except Fault (Clause × Text) := do
  let (key, s) ← readText .text (← item 0 s)
  let s ← readOperator (← item 1 s)
  let (value, s) ← readText .text (← item 2 s)
  let (start, s) ← readOffset (← item 3 s)
  let s ← endList s
  .ok (⟨.ofText key, value, start⟩, s)

inductive Field where
  | key
  | operator
  | value
  | offsetStart
  deriving DecidableEq, Repr

namespace Field

def name : Field → Text
  | key => "key"
  | operator => "operator"
  | value => "value"
  | offsetStart => "offsetStart"

def ofName? (s : Text) : Option Field :=
  [key, operator, value, offsetStart].find? (·.name = s)

end Field

/-- The fields of a clause that have been read. -/
structure Draft where
  key : Option Text
  operator : Option Unit
  value : Option Text
  start : Option Nat
  deriving DecidableEq, Repr

namespace Draft

def empty : Draft := ⟨none, none, none, none⟩

def has (d : Draft) : Field → Bool
  | .key => d.key.isSome
  | .operator => d.operator.isSome
  | .value => d.value.isSome
  | .offsetStart => d.start.isSome

/-- Reads the value of a field. -/
def readField (d : Draft) (f : Field) (s : Text) : Except Fault (Draft × Text) :=
  match f with
  | .key => (readText .text s).map fun (key, s) => ({ d with key := some key }, s)
  | .operator => (readOperator s).map fun s => ({ d with operator := some () }, s)
  | .value => (readText .text s).map fun (value, s) => ({ d with value := some value }, s)
  | .offsetStart => (readOffset s).map fun (start, s) => ({ d with start := some start }, s)

/-- The clause, or the first field that is missing. -/
def finish (d : Draft) : Except Fault Clause :=
  match d.key, d.operator, d.value, d.start with
  | some key, some _, some value, some start => .ok ⟨.ofText key, value, start⟩
  | none, _, _, _ => .error (.mismatch (.missingField Field.key.name))
  | _, none, _, _ => .error (.mismatch (.missingField Field.operator.name))
  | _, _, none, _ => .error (.mismatch (.missingField Field.value.name))
  | _, _, _, none => .error (.mismatch (.missingField Field.offsetStart.name))

end Draft

/-- Goes to the text of a field's name, after its opening quote, or to the bracket that ends the
object. -/
def nextField (first : Bool) (s : Text) : Except Fault (Option Text) :=
  match skipBlanks s with
  | [] => .error .truncated
  | '\x7d' :: _ => .ok none
  | c :: s =>
    if first then
      if c = '"' then .ok (some s) else .error .malformed
    else if c = ',' then (skipMark '"' s).map some
    else .error .malformed

/-- Reads one field, after the opening quote of its name, into a draft. Fields of other names are
passed over. -/
def readMember (d : Draft) (s : Text) : Except Fault (Draft × Text) := do
  let (name, s) ← scanString s
  match Field.ofName? name with
  | some f =>
    if d.has f then .error (.mismatch (.duplicateField name))
    else d.readField f (← skipMark ':' s)
  | none =>
    let s ← skipMark ':' s
    let s ← skipValue s
    .ok (d, s)

/-- Reads at most `count` fields of a clause, and the bracket that ends it. -/
def readMembers : Nat → Bool → Draft → Text → Except Fault (Clause × Text)
  | 0, _, _, _ => .error .malformed
  | count + 1, first, d, s => do
    match ← nextField first s with
    | none =>
      let clause ← d.finish
      let s ← skipMark '\x7d' s
      .ok (clause, s)
    | some s =>
      let (d, s) ← readMember d s
      readMembers count false d s

/-- A clause in either form. Each field takes at least one character. -/
def readClause (s : Text) : Except Fault (Clause × Text) :=
  match skipBlanks s with
  | [] => .error .truncated
  | '[' :: s => readClauseList s
  | '\x7b' :: s => readMembers (s.length + 1) true .empty s
  | s => .error (refusal .clause s)

/-- Reads at most `count` clauses of a list, and the bracket that ends it. -/
def readItems : Nat → Bool → Text → Except Fault (List Clause × Text)
  | 0, _, _ => .error .malformed
  | count + 1, first, s => do
    match ← nextItem first s with
    | none =>
      let s ← endList s
      .ok ([], s)
    | some s =>
      let (clause, s) ← readClause s
      let (clauses, s) ← readItems count false s
      .ok (clause :: clauses, s)

/-- Reads a list of clauses, which is all of a text. Each clause takes at least one character. -/
def readClauses (s : Text) : Except Fault (List Clause) :=
  match skipBlanks s with
  | [] => .error .truncated
  | '[' :: s => do
    let (clauses, s) ← readItems (s.length + 1) true s
    if skipBlanks s = [] then .ok clauses else .error .malformed
  | s => .error (refusal .clauses s)

end Json

end LogFilter
