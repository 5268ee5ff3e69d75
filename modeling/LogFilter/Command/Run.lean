import LogFilter.Command.Script
import LogFilter.Display.Highlight
import LogFilter.Display.Report
import LogFilter.Display.Table
import LogFilter.Json.Clauses
import LogFilter.Query.Parse
import LogFilter.Query.Render
import LogFilter.Query.Scalar

/-!
# Running the program

A run is a function of the arguments and of what it reads. It leaves behind what it has written, in
the order of the writes, and how it ended.
-/

namespace LogFilter

/-- What a run reads: files by their paths, the standard input, and whether the terminal and the
environment want colors. -/
structure Surroundings where
  readFile : Text → Except FileError ByteArray
  input : ByteArray
  wantsColor : Bool

/-- A text as it is, or a JSON document, which ends with a line end as well. The keys of objects
are texts, so that every document can be written. -/
def inFormat (format : OutputFormat) (text : Text) (json : Json) : Text :=
  match format with
  | .text => text
  | .json => json.write .indented 0 ++ "\n"

def Problem.toJson (p : Problem) : Json :=
  .object [("message", .text p.message), ("offset", .number p.offset)]

/-- The clauses of a file, or of the standard input. -/
def readClausesFrom (s : Surroundings) (file : Option Text) : Except Failure (List Clause) := do
  let text ← match file with
    | some path => ((s.readFile path).bind decodeUtf8).mapError (.clausesFile path)
    | none => (decodeUtf8 s.input).mapError .input
  (Json.readClauses text).mapError .clauses

open Script in
/-- Performs a command and tells whether it passes, as all do but the check of a query with
problems. -/
def Command.perform (s : Surroundings) (p : Profile) (format : OutputFormat) (quiet : Bool) :
    Command → Script Bool
  | .parse query => do
    let clauses := LogFilter.parse query
    warn p quiet clauses
    write .output (inFormat format (clauseTable clauses) (clausesToJson clauses))
    return true
  | .stringify file => do
    let clauses ← attempt (readClausesFrom s file)
    warn p quiet clauses
    let text := editText clauses
    write .output (inFormat format (text ++ "\n") (.object [("query", .text text)]))
    return true
  | .server query => do
    let clauses := LogFilter.parse query
    warn p quiet clauses
    let text := serverText clauses
    write .output (inFormat format (text ++ "\n")
      (.object [("query", .text text), ("valid", .bool (isValid clauses))]))
    return true
  | .validate query => do
    let clauses := LogFilter.parse query
    warn p quiet clauses
    let found := problems clauses
    write .output (inFormat format (report (← isColored) found)
      (.object [("errors", .list (found.map Problem.toJson)), ("valid", .bool found.isEmpty)]))
    return found.isEmpty
  | .quote value number => do
    let scalar ← if number then attempt ((Scalar.readNumber value).mapError (.notANumber value))
      else pure (.text value)
    let text := scalar.quoted
    write .output (inFormat format (text ++ "\n") (.object [("value", .text text)]))
    return true
  | .highlight query => do
    let clauses := LogFilter.parse query
    warn p quiet clauses
    write .output (LogFilter.highlight (← isColored) query clauses ++ "\n")
    return true

/-- How a run ends. -/
inductive Ending where
  | done (passed : Bool)
  | failed (failure : Failure)
  | misuse
  | version
  deriving DecidableEq, Repr

/-- What is left of a run. -/
structure Outcome where
  writes : List Write
  ending : Ending
  deriving DecidableEq, Repr

namespace Outcome

def exitCode (o : Outcome) : Nat :=
  match o.ending with
  | .done passed => if passed then 0 else 1
  | .failed _ => 2
  | .misuse => 2
  | .version => 0

def output (o : Outcome) : Text := textOn .output o.writes

/-- The lines that are not output. -/
def messages (o : Outcome) : Text := textOn .messages o.writes

end Outcome

namespace Invocation

/-- Whether colors are on from the moment that the option has been applied. -/
def colored (s : Surroundings) (i : Invocation) : Bool := i.color.over s.wantsColor

def outputFormat (i : Invocation) (p : Profile) : OutputFormat :=
  (i.format <|> p.format).getD .text

open Script in
/-- The option for colors is applied once the profile has been loaded. -/
def perform (s : Surroundings) (i : Invocation) : Script Bool := do
  let p ← attempt ((Profile.load s.readFile i.config).mapError .profile)
  setColor i.color
  i.command.perform s p (i.outputFormat p) i.quiet

/-- A failure is reported in the end, in color if colors are on by then. -/
def run (s : Surroundings) (i : Invocation) : Outcome :=
  match (i.perform s).runOn ⟨[], s.wantsColor⟩ with
  | (.ok passed, c) => ⟨c.writes, .done passed⟩
  | (.error failure, c) =>
    ⟨(c.add [⟨.messages, failure.report c.colored⟩]).writes, .failed failure⟩

/-- The files that a run may read. -/
def files (i : Invocation) : List Text :=
  i.config.toList ++
    match i.command with
    | .stringify (some file) => [file]
    | _ => []

end Invocation

/-- Runs the program with its arguments. -/
def run (environment : Option Text) (args : List Text) (s : Surroundings) : Outcome :=
  match Invocation.ofArguments environment args with
  | .ok i => i.run s
  | .error .misuse => ⟨[⟨.messages, "Usage: logs-query [OPTIONS] <COMMAND>\n"⟩], .misuse⟩
  | .error .version => ⟨[⟨.output, "logs-query 0.1.0\n"⟩], .version⟩

end LogFilter
