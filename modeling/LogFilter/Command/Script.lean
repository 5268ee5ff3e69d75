import LogFilter.Command.Arguments
import LogFilter.Decimal.Read
import LogFilter.Display.Paint
import LogFilter.Json.Fault
import LogFilter.Profile.Load

/-!
# Scripts

A run is a script: steps in an order, some of which write and some of which can fail. The first
failure ends a script, and what has been written by then stays written. Writing itself does not
fail. The log that `verbose` asks for is left out.
-/

namespace LogFilter

inductive Failure where
  | profile (error : ProfileError)
  | clausesFile (path : Text) (error : FileError)
  | input (error : FileError)
  | clauses (fault : Json.Fault)
  | notANumber (value : Text) (error : FloatError)
  deriving DecidableEq, Repr

namespace Failure

def message : Failure → Text
  | profile error => "Failed to load config: " ++ error.message
  | clausesFile path error => "Failed to read clauses file '" ++ path ++ "': " ++ error.message
  | input error => "Failed to read clauses from stdin: " ++ error.message
  | clauses _ => "Invalid clauses JSON"
  | notANumber value error => "'" ++ value ++ "' is not a number: " ++ error.message

end Failure

/-- The line of a message, behind a painted word that tells what it is. -/
def messageLine (colored : Bool) (style : Style) (word message : Text) : Text :=
  paint colored style word ++ ' ' :: message ++ ['\n']

def Warning.report (w : Warning) (colored : Bool) : Text :=
  messageLine colored .boldYellow "Warning:" w.message

def Failure.report (failure : Failure) (colored : Bool) : Text :=
  messageLine colored .boldRed "Error:" failure.message

/-- Where a run writes: its results, and all that it says about them. -/
inductive Channel where
  | output
  | messages
  deriving DecidableEq, Repr

structure Write where
  channel : Channel
  text : Text
  deriving DecidableEq, Repr

/-- Everything that has been written on one channel. -/
def textOn (channel : Channel) (writes : List Write) : Text :=
  (writes.filter (·.channel = channel)).flatMap Write.text

/-- What steps change: what has been written so far, in order, and whether colors are on. -/
structure Console where
  writes : List Write
  colored : Bool
  deriving DecidableEq, Repr

def Console.add (c : Console) (writes : List Write) : Console :=
  { c with writes := c.writes ++ writes }

/-- A failure does not undo the steps before it. -/
abbrev Script := ExceptT Failure (StateM Console)

/-- Whether colors are on once a mode has been chosen. -/
def ColorMode.over (mode : ColorMode) (colored : Bool) : Bool :=
  match mode with
  | .auto => colored
  | .always => true
  | .never => false

namespace Script

variable {α : Type}

/-- Carries out a script as far as it gets. -/
def runOn (x : Script α) (c : Console) : Except Failure α × Console :=
  Id.run (StateT.run (ExceptT.run x) c)

def write (channel : Channel) (text : Text) : Script Unit :=
  modify fun c => c.add [⟨channel, text⟩]

def setColor (mode : ColorMode) : Script Unit :=
  modify fun c => { c with colored := mode.over c.colored }

def isColored : Script Bool := do
  return (← get).colored

/-- A step that can fail and writes nothing. -/
def attempt (x : Except Failure α) : Script α :=
  liftExcept x

/-- Warns about clauses, unless that is not wanted. -/
def warn (p : Profile) (quiet : Bool) (clauses : List Clause) : Script Unit := do
  unless quiet do
    (warnings p clauses).forM fun w => do
      write .messages (w.report (← isColored))

end Script

end LogFilter
