import LogFilter.Query.Clause
import LogFilter.Query.Quoting

/-!
# Writing a query

The edit text keeps the values as they were typed. The server text quotes every value anew, so
that different spellings of one value are written alike.
-/

namespace LogFilter

/-- The clauses as a query to go on editing. -/
def editText (clauses : List Clause) : Text :=
  Text.join " " (clauses.map Clause.text)

namespace Clause

/-- The value without its quotes, quoted anew. -/
def serverValue (c : Clause) : Text :=
  quote (unquote c.value)

def serverText (c : Clause) : Text :=
  { c with value := c.serverValue }.text

end Clause

/-- The clauses as the query that the server gets. -/
def serverText (clauses : List Clause) : Text :=
  Text.join " " (clauses.map Clause.serverText)

end LogFilter
