import LogFilter.Query.Token

/-!
# Quoted values

`quote` makes any text a single value of a query, and `unquote` takes one layer of quotes off.
A text that is one quoted token already stays as it is.
-/

namespace LogFilter

/-- Whether a text is exactly one token, not left open, that starts and ends with `mark`. -/
def isToken (mark : Char) (s : Text) : Bool :=
  2 ≤ byteLength s && s.head? == some mark && s.getLast? == some mark &&
    match layout s with
    | ⟨[⟨[], lexeme⟩], []⟩ => lexeme.closed
    | _ => false

def isQuotedBy (q : Quote) (s : Text) : Bool :=
  isToken q.char s

def isQuoted (s : Text) : Bool :=
  isQuotedBy .double s || isQuotedBy .single s

/-- Backslashes and double quotes take a backslash in front. -/
def escape : Text → Text
  | [] => []
  | c :: s => if c = '\\' || c = '"' then '\\' :: c :: escape s else c :: escape s

/-- A backslash before a backslash or a double quote goes; any other stays. -/
def unescape : Text → Text
  | '\\' :: '\\' :: s => '\\' :: unescape s
  | '\\' :: '"' :: s => '"' :: unescape s
  | c :: s => c :: unescape s
  | [] => []

theorem unescape_escape (s : Text) : unescape (escape s) = s := by
  induction s with
  | nil => simp [escape, unescape]
  | cons c s ih =>
    simp only [escape]
    split
    · next h =>
      simp only [Bool.or_eq_true, decide_eq_true_eq] at h
      rcases h with rfl | rfl <;> simp [unescape, ih]
    · next h =>
      simp only [Bool.or_eq_true, decide_eq_true_eq, not_or] at h
      rw [unescape, ih]
      · exact fun _ hc _ => h.1 hc
      · exact fun _ hc _ => h.1 hc

def quote (s : Text) : Text :=
  if isQuoted s then s else '"' :: (escape s ++ ['"'])

/-- What stands between the first and the last character. -/
def inside (s : Text) : Text :=
  s.tail.dropLast

def unquote (s : Text) : Text :=
  if isQuotedBy .double s then unescape (inside s)
  else if isQuotedBy .single s then inside s
  else s

end LogFilter
