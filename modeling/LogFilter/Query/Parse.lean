import LogFilter.Query.Clause
import LogFilter.Query.Token

/-!
# Reading a query

A lexeme with a key is a clause of its own. Neighbouring lexemes without a key are one clause,
whose value is their text with the blanks between them. Every text is a query.
-/

namespace LogFilter

/-- A clause before it is placed: its key, its value, and the blanks before it. -/
structure Run where
  gap : Text
  key : Key
  value : Text
  deriving DecidableEq, Repr

namespace Run

def text (r : Run) : Text :=
  match r.key with
  | .body => r.value
  | .field name => name ++ ':' :: r.value

def isField (r : Run) : Bool :=
  match r.key with
  | .body => false
  | .field _ => true

/-- Joins a lexeme without a key to the runs after it. -/
def prepend (gap word : Text) : List Run → List Run
  | ⟨inner, .body, value⟩ :: runs => ⟨gap, .body, word ++ inner ++ value⟩ :: runs
  | runs => ⟨gap, .body, word⟩ :: runs

/-- The runs of consecutive pieces. -/
def ofPieces : List Piece → List Run
  | [] => []
  | ⟨gap, ⟨some key, value, _⟩⟩ :: pieces => ⟨gap, .field key, value⟩ :: ofPieces pieces
  | ⟨gap, ⟨none, value, _⟩⟩ :: pieces => prepend gap value (ofPieces pieces)

end Run

namespace Layout

/-- The runs of a query. Blanks after a last field begin an empty search text, which gives an
editor a place to type. -/
def runs (l : Layout) : List Run :=
  let runs := Run.ofPieces l.pieces
  if l.trailing ≠ [] ∧ runs.getLast?.any Run.isField then runs ++ [⟨l.trailing, .body, []⟩]
  else runs

end Layout

/-- The clauses of consecutive runs, the first of which begins at `offset`. -/
def place (offset : Nat) : List Run → List Clause
  | [] => []
  | r :: runs =>
    let start := offset + byteLength r.gap
    ⟨r.key, r.value, start⟩ :: place (start + byteLength r.text) runs

/-- The clauses of a query, in order. -/
def parse (s : Text) : List Clause :=
  place 0 (layout s).runs

end LogFilter
