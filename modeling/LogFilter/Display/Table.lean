import LogFilter.Query.Clause
import LogFilter.Text.Width

/-!
# Tables

Rows of cells between ruled lines. A cell has as many lines as its text, and a column is as wide
as its widest line.
-/

namespace LogFilter

structure BoxTable where
  header : List Text
  rows : List (List Text)

namespace BoxTable

/-- The four kinds of characters that draw a horizontal line. -/
structure Rule where
  left : Char
  line : Char
  crossing : Char
  right : Char

def top : Rule := ⟨'┌', '─', '┬', '┐'⟩

def belowHeader : Rule := ⟨'╞', '═', '╪', '╡'⟩

def betweenRows : Rule := ⟨'├', '╌', '┼', '┤'⟩

def bottom : Rule := ⟨'└', '─', '┴', '┘'⟩

def cellLines (cell : Text) : List Text := cell.splitAt '\n'

def cellWidth (cell : Text) : Nat :=
  ((cellLines cell).map displayWidth).foldl max 0

/-- The widths of the columns of some rows, each with `count` cells. -/
def columnWidths (count : Nat) (rows : List (List Text)) : List Nat :=
  rows.foldl (fun widths row => List.zipWith (fun w cell => max w (cellWidth cell)) widths row)
    (List.replicate count 0)

/-- A text and one column on either side, filled up to a width. -/
def pad (width : Nat) (s : Text) : Text :=
  ' ' :: (s ++ List.replicate (width - displayWidth s) ' ' ++ [' '])

def ruled (rule : Rule) (widths : List Nat) : Text :=
  rule.left :: (Text.join [rule.crossing]
    (widths.map fun w => List.replicate (w + 2) rule.line) ++ [rule.right])

/-- One line of a row. -/
def rowLine (widths : List Nat) (texts : List Text) : Text :=
  '│' :: (Text.join ['┆'] (List.zipWith pad widths texts) ++ ['│'])

/-- The lines of a row, as many as its highest cell has. -/
def rowLines (widths : List Nat) (row : List Text) : List Text :=
  let cells := row.map cellLines
  let height := (cells.map List.length).foldl max 0
  (List.range height).map fun i => rowLine widths (cells.map fun lines => lines.getD i [])

def lines (t : BoxTable) : List Text :=
  let widths := columnWidths t.header.length (t.header :: t.rows)
  let body := List.intercalate [ruled betweenRows widths] (t.rows.map (rowLines widths))
  [ruled top widths] ++ rowLines widths t.header ++ [ruled belowHeader widths] ++ body ++
    [ruled bottom widths]

end BoxTable

/-- The cells of a clause, which stands at an index of a list. -/
def Clause.cells (index : Nat) (c : Clause) : List Text :=
  [Text.ofNat index, c.key.text, equalsSign, c.value, Text.ofNat c.start]

/-- A table of clauses, with one row for each. -/
def clauseTable (clauses : List Clause) : Text :=
  if clauses.isEmpty then "No clauses.\n"
  else
    let table : BoxTable :=
      ⟨["#", "Key", "Op", "Value", "Offset"], clauses.mapIdx Clause.cells⟩
    table.lines.flatMap (· ++ ['\n'])

end LogFilter
