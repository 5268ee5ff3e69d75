import LogFilter.Text.Basic

/-!
# JSON documents

Documents of JSON as far as they are written: texts, natural numbers, truth values, lists and
objects. They are written on one line, or with two spaces of indent for each level.
-/

namespace LogFilter

inductive Json where
  | text (s : Text)
  | number (n : Nat)
  | bool (b : Bool)
  | list (items : List Json)
  | object (fields : List (Text × Json))

namespace Json

/-- The two spellings of a document. -/
inductive Spacing where
  | compact
  | indented
  deriving DecidableEq, Repr

namespace Spacing

/-- What stands before an item at a level, and before the bracket that closes that level. -/
def newline (level : Nat) : Spacing → Text
  | compact => []
  | indented => '\n' :: List.replicate (2 * level) ' '

def colon : Spacing → Text
  | compact => ":"
  | indented => ": "

end Spacing

def hexDigit (n : Nat) : Char := Nat.digitChar (n % 16)

/-- Quotes, backslashes and control characters are escaped, all else stands for itself. -/
def writeChar (c : Char) : Text :=
  match c with
  | '"' => "\\\""
  | '\\' => "\\\\"
  | '\x08' => "\\b"
  | '\x0c' => "\\f"
  | '\n' => "\\n"
  | '\r' => "\\r"
  | '\t' => "\\t"
  | c =>
    if c.toNat < 0x20 then "\\u00" ++ [hexDigit (c.toNat / 16), hexDigit c.toNat] else [c]

def writeText (s : Text) : Text :=
  '"' :: (s.flatMap writeChar ++ ['"'])

mutual

/-- Writes a document whose first line stands at a level. -/
def write (spacing : Spacing) (level : Nat) : Json → Text
  | text s => writeText s
  | number n => Text.ofNat n
  | bool b => if b then "true" else "false"
  | list [] => "[]"
  | list (item :: items) =>
    '[' :: (spacing.newline (level + 1) ++ write spacing (level + 1) item ++
      writeItems spacing (level + 1) items ++ spacing.newline level ++ "]")
  | object [] => "\x7b\x7d"
  | object ((name, value) :: fields) =>
    "\x7b" ++ spacing.newline (level + 1) ++ writeText name ++ spacing.colon ++
      write spacing (level + 1) value ++ writeFields spacing (level + 1) fields ++
      spacing.newline level ++ "\x7d"

/-- Writes the items after the first one. -/
def writeItems (spacing : Spacing) (level : Nat) : List Json → Text
  | [] => []
  | item :: items =>
    "," ++ spacing.newline level ++ write spacing level item ++ writeItems spacing level items

/-- Writes the fields after the first one. -/
def writeFields (spacing : Spacing) (level : Nat) : List (Text × Json) → Text
  | [] => []
  | (name, value) :: fields =>
    "," ++ spacing.newline level ++ writeText name ++ spacing.colon ++
      write spacing level value ++ writeFields spacing level fields

end

end Json

end LogFilter
