import LogFilter.Json.Scan

/-!
# Passing over JSON values

A value that nobody asked for is passed over, however deep it is. The brackets that it has opened
are kept on a stack, the innermost first.
-/

namespace LogFilter.Json

inductive Bracket where
  | list
  | object
  deriving DecidableEq, Repr

namespace Bracket

def close : Bracket → Char
  | list => ']'
  | object => '\x7d'

/-- Takes off what stands before a value in this bracket: a name and a colon in an object. -/
def skipLead (b : Bracket) (s : Text) : Except Fault Text :=
  match b with
  | list => .ok s
  | object => do
    let s ← skipMark '"' s
    let s ← skipString s
    skipMark ':' s

end Bracket

/-- Where passing over stands between two values. -/
inductive Progress where
  /-- The value is complete; the text after it is left. -/
  | done (rest : Text)
  /-- Another value follows, inside these brackets. -/
  | value (opened : List Bracket) (rest : Text)
  deriving DecidableEq, Repr

/-- Goes on after a complete value: through closing brackets, up to the value after a comma. -/
def afterValue : List Bracket → Text → Except Fault Progress
  | [], s => .ok (.done s)
  | b :: opened, s =>
    match skipBlanks s with
    | [] => .error .truncated
    | c :: s =>
      if c = ',' then (b.skipLead s).map (.value (b :: opened))
      else if c = b.close then afterValue opened s
      else .error .malformed

/-- Goes on after an opening bracket: to its first value, or through the bracket that closes it. -/
def afterOpening (b : Bracket) (opened : List Bracket) (s : Text) : Except Fault Progress :=
  match skipBlanks s with
  | [] => .error .truncated
  | c :: s =>
    if c = b.close then afterValue opened s
    else (b.skipLead (c :: s)).map (.value (b :: opened))

/-- Takes off a value without brackets, or an opening bracket. -/
def skipOne (opened : List Bracket) (s : Text) : Except Fault Progress :=
  match skipBlanks s with
  | [] => .error .truncated
  | 'n' :: s => (skipWord "ull" s).bind (afterValue opened)
  | 't' :: s => (skipWord "rue" s).bind (afterValue opened)
  | 'f' :: s => (skipWord "alse" s).bind (afterValue opened)
  | '"' :: s => (skipString s).bind (afterValue opened)
  | '[' :: s => afterOpening .list opened s
  | '\x7b' :: s => afterOpening .object opened s
  | c :: s =>
    if c = '-' ∨ c.isDigit then
      (scanNumber .malformed (c :: s)).bind fun (_, s) => afterValue opened s
    else .error .malformed

/-- Passes over values until the outermost one is complete, in at most `steps` steps. -/
def skipValues : Nat → List Bracket → Text → Except Fault Text
  | 0, _, _ => .error .malformed
  | steps + 1, opened, s =>
    match skipOne opened s with
    | .error fault => .error fault
    | .ok (.done s) => .ok s
    | .ok (.value opened s) => skipValues steps opened s

/-- Passes over one value. Each step takes at least one character off. -/
def skipValue (s : Text) : Except Fault Text := skipValues (s.length + 1) [] s

end LogFilter.Json
