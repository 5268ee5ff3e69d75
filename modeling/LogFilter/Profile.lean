import LogFilter.Query.Clause
import LogFilter.Text.KeyChar
import LogFilter.Text.LowerCase

/-!
# Profiles and warnings

A profile names the keys that the server knows. Keys are compared without case. Where a profile
names no key, every key is accepted.
-/

namespace LogFilter

inductive OutputFormat where
  | text
  | json
  deriving DecidableEq, Repr

structure Profile where
  name : Text
  knownKeys : List Text
  /-- The format for output that asks for none. -/
  format : Option OutputFormat
  deriving DecidableEq, Repr

namespace Profile

def base : Profile := ⟨"base", [], none⟩

def hasKeyHints (p : Profile) : Bool :=
  !p.knownKeys.isEmpty

def knows (p : Profile) (key : Text) : Bool :=
  (p.knownKeys.map lower).contains (lower key)

end Profile

inductive Warning where
  /-- A key of the profile that is not valid. -/
  | untypeable (key : Text)
  /-- A key of the query that the profile does not name. -/
  | unknownKey (key : Text) (offset : Nat) (knownKeys : List Text)
  deriving DecidableEq, Repr

namespace Warning

def message : Warning → Text
  | untypeable key => "Configured key '" ++ key ++ "' can never be typed in a query"
  | unknownKey key offset knownKeys =>
    "Unknown key '" ++ key ++ "' at offset " ++ Text.ofNat offset ++ ". Known keys are: " ++
      Text.join ", " knownKeys

end Warning

/-- Whether a clause filters on a field that the profile does not know. -/
def Profile.rejects (p : Profile) (c : Clause) : Bool :=
  match c.key with
  | .body => false
  | .field name => !p.knows name

/-- Of the clauses with one key, the first. -/
def firstOfKeys : List Clause → List Clause
  | [] => []
  | c :: clauses => c :: (firstOfKeys clauses).filter (·.key ≠ c.key)

/-- One warning for each entry of the profile that is not a valid key, then one for each spelling
of a key that is not known. -/
def warnings (p : Profile) (clauses : List Clause) : List Warning :=
  let untypeable := (p.knownKeys.filter (!isValidKey ·)).map .untypeable
  if p.hasKeyHints then
    untypeable ++ (firstOfKeys (clauses.filter p.rejects)).map fun c =>
      .unknownKey c.key.text c.start p.knownKeys
  else untypeable

end LogFilter
