import LogFilter.Profile.Read

/-!
# Command line arguments

Arguments are read from left to right, and the first one that does not fit ends the reading.
Options may stand before the command and after it; each place has options of its own, and those
after the command win. There is no help here: `--help`, `-h` and the command `help` are left out, so
that they are misuse.
-/

namespace LogFilter

inductive ColorMode where
  | auto
  | always
  | never
  deriving DecidableEq, Repr

namespace ColorMode

def name : ColorMode → Text
  | auto => "auto"
  | always => "always"
  | never => "never"

def ofName? (s : Text) : Option ColorMode :=
  [auto, always, never].find? (·.name = s)

end ColorMode

/-- What the program is asked to do. -/
inductive Command where
  | parse (query : Text)
  | stringify (file : Option Text)
  | server (query : Text)
  | validate (query : Text)
  | quote (value : Text) (number : Bool)
  | highlight (query : Text)
  deriving DecidableEq, Repr

structure Invocation where
  command : Command
  format : Option OutputFormat
  config : Option Text
  color : ColorMode
  quiet : Bool
  verbosity : Nat
  deriving DecidableEq, Repr

/-- Why there is no invocation. -/
inductive Refusal where
  | misuse
  /-- Not the arguments' fault: they ask for the version of the program. -/
  | version
  deriving DecidableEq, Repr

namespace Arguments

inductive Verb where
  | parse
  | stringify
  | server
  | validate
  | quote
  | highlight
  deriving DecidableEq, Repr

def Verb.name : Verb → Text
  | parse => "parse"
  | stringify => "stringify"
  | server => "server"
  | validate => "validate"
  | quote => "quote"
  | highlight => "highlight"

def Verb.ofName? (s : Text) : Option Verb :=
  [.parse, .stringify, .server, .validate, .quote, .highlight].find? fun v : Verb => v.name = s

/-- The options with a value. -/
inductive Setting where
  | format
  | config
  | color
  deriving DecidableEq, Repr

inductive Flag where
  | verbose
  | quiet
  | number
  | version
  deriving DecidableEq, Repr

/-- An option by its name. -/
inductive Name where
  | setting (s : Setting)
  | flag (f : Flag)
  deriving DecidableEq, Repr

def Name.ofLetter? : Char → Option Name
  | 'F' => some (.setting .format)
  | 'c' => some (.setting .config)
  | 'v' => some (.flag .verbose)
  | 'q' => some (.flag .quiet)
  | 'n' => some (.flag .number)
  | 'V' => some (.flag .version)
  | _ => none

def longNames : List (Text × Name) :=
  [("format", .setting .format), ("config", .setting .config), ("color", .setting .color),
    ("verbose", .flag .verbose), ("quiet", .flag .quiet), ("number", .flag .number),
    ("version", .flag .version)]

/-- The options in one of the two places. -/
structure Options where
  format : Option OutputFormat
  config : Option Text
  color : Option ColorMode
  quiet : Bool
  number : Bool
  verbosity : Nat
  deriving DecidableEq, Repr

namespace Options

def empty : Options := ⟨none, none, none, false, false, 0⟩

/-- Gives a setting a value. A setting is given once, and its value has to be one of its own; any
path but the empty one is. -/
def set (o : Options) (s : Setting) (value : Text) : Except Refusal Options :=
  match s with
  | .format =>
    match o.format, OutputFormat.ofName? value with
    | none, some format => .ok { o with format := some format }
    | _, _ => .error .misuse
  | .config =>
    if o.config.isNone ∧ value ≠ [] then .ok { o with config := some value } else .error .misuse
  | .color =>
    match o.color, ColorMode.ofName? value with
    | none, some color => .ok { o with color := some color }
    | _, _ => .error .misuse

/-- Raises a flag of the program, or of the command that the options belong to. Only `verbose` may
be repeated. -/
def raise (o : Options) (verb : Option Verb) (f : Flag) : Except Refusal Options :=
  match f with
  | .verbose => .ok { o with verbosity := o.verbosity + 1 }
  | .quiet => if o.quiet then .error .misuse else .ok { o with quiet := true }
  | .number =>
    if verb ≠ some .quote ∨ o.number then .error .misuse else .ok { o with number := true }
  | .version => .error (if verb = none then .version else .misuse)

end Options

/-- The arguments that have been read. -/
structure Progress where
  /-- The options before the command, once there is one. -/
  before : Options
  verb : Option Verb
  /-- The options in the present place. -/
  options : Options
  /-- A setting whose value is the next argument. -/
  pending : Option Setting
  /-- True after `--`, which ends the options. -/
  ended : Bool
  values : List Text
  deriving DecidableEq, Repr

namespace Progress

def start : Progress := ⟨.empty, none, .empty, none, false, []⟩

def set (p : Progress) (s : Setting) (value : Text) : Except Refusal Progress := do
  let options ← p.options.set s value
  .ok { p with options := options, pending := none }

def raise (p : Progress) (f : Flag) : Except Refusal Progress := do
  let options ← p.options.raise p.verb f
  .ok { p with options := options }

/-- Reads letters of options behind one dash. The text behind a setting is its value, with or
without an equals sign. -/
def readLetters (p : Progress) : Text → Except Refusal Progress
  | [] => .ok p
  | c :: s =>
    match Name.ofLetter? c, s with
    | some (.flag f), s => do (← p.raise f).readLetters s
    | some (.setting name), [] => .ok { p with pending := some name }
    | some (.setting name), '=' :: value => p.set name value
    | some (.setting name), value => p.set name value
    | none, _ => .error .misuse

/-- Reads an option behind two dashes. -/
def readLong (p : Progress) (s : Text) : Except Refusal Progress :=
  match longNames.lookup (s.takeWhile (· ≠ '=')), s.dropWhile (· ≠ '=') with
  | some (.flag f), [] => p.raise f
  | some (.setting name), [] => .ok { p with pending := some name }
  | some (.setting name), _ :: value => p.set name value
  | _, _ => .error .misuse

/-- Reads an argument that is not an option: the command, or else a value of the command. -/
def readValue (p : Progress) (s : Text) : Except Refusal Progress :=
  match p.verb with
  | some _ => .ok { p with values := p.values ++ [s] }
  | none =>
    match Verb.ofName? s with
    | some verb =>
      if p.ended then .error .misuse
      else .ok { p with before := p.options, verb := some verb, options := .empty }
    | none => .error .misuse

/-- Reads an argument. -/
def read (p : Progress) (s : Text) : Except Refusal Progress :=
  if p.ended then p.readValue s
  else
    match p.pending, s with
    | some _, '-' :: _ :: _ => .error .misuse
    | some name, value => p.set name value
    | none, ['-', '-'] => .ok { p with ended := true }
    | none, '-' :: '-' :: name => p.readLong name
    | none, '-' :: c :: letters => p.readLetters (c :: letters)
    | none, value => p.readValue value

end Progress

/-- The command with its values, of which there have to be as many as it takes. -/
def commandOf (verb : Verb) (number : Bool) (values : List Text) : Except Refusal Command :=
  match verb, values with
  | .parse, [query] => .ok (.parse query)
  | .stringify, [] => .ok (.stringify none)
  | .stringify, [file] => if file = [] then .error .misuse else .ok (.stringify (some file))
  | .server, [query] => .ok (.server query)
  | .validate, [query] => .ok (.validate query)
  | .quote, [value] => .ok (.quote value number)
  | .highlight, [query] => .ok (.highlight query)
  | _, _ => .error .misuse

/-- The invocation that all arguments make, with the environment's path to a profile. That path is
looked at in each place where the arguments give none, so it may be empty only if both give one. -/
def finish (environment : Option Text) (p : Progress) : Except Refusal Invocation := do
  let some verb := p.verb | .error .misuse
  if p.pending.isSome then .error .misuse
  if environment = some [] ∧ (p.before.config.isNone ∨ p.options.config.isNone) then
    .error .misuse
  let command ← commandOf verb p.options.number p.values
  .ok {
    command := command
    format := p.options.format <|> p.before.format
    config := p.options.config <|> p.before.config <|> environment
    color := (p.options.color <|> p.before.color).getD .auto
    quiet := p.options.quiet || p.before.quiet
    verbosity := if p.options.verbosity = 0 then p.before.verbosity else p.options.verbosity }

end Arguments

/-- Reads the arguments of the program. -/
def Invocation.ofArguments (environment : Option Text) (args : List Text) :
    Except Refusal Invocation := do
  let p ← args.foldlM Arguments.Progress.read .start
  Arguments.finish environment p

end LogFilter
