import LogFilter.Query.Token

/-!
# Reading tokens character by character

The tokens of a query by a machine with four states that looks at one character at a time. It
gives the places of tokens only, and no step of it looks back at what was read.
-/

namespace LogFilter

/-- The place of a token and of its parts. -/
structure Span where
  start : Nat
  stop : Nat
  /-- Where the key stops and where the value starts, in a token that has a key. -/
  keyed? : Option (Nat × Nat)
  closed : Bool
  deriving DecidableEq, Repr

def Token.span (t : Token) : Span := ⟨t.start, t.stop, t.keyed?, t.lexeme.closed⟩

namespace Scanner

/-- What may come next in a token. -/
inductive State where
  /-- A character of what may turn out to be a key. -/
  | key
  /-- The value after a colon, which may open with a quote. -/
  | value
  /-- All up to a blank, quotes included. -/
  | word
  /-- All up to the closing quote. -/
  | quoted (q : Quote)
  deriving DecidableEq, Repr

end Scanner

/-- A scanner within a token. -/
structure Scanner where
  state : Scanner.State
  pos : Nat
  /-- The text from `pos` on. -/
  rest : Text
  keyed? : Option (Nat × Nat)
  deriving DecidableEq, Repr

namespace Scanner

/-- One step in a token that starts at `start`, or none where the token ends. A step that only
changes the state leaves the character to the next step. -/
def step (start : Nat) : Scanner → Option Scanner
  | ⟨_, _, [], _⟩ => none
  | ⟨.key, pos, c :: s, keyed?⟩ =>
    if isKeyChar c then some ⟨.key, pos + c.utf8Size, s, keyed?⟩
    else if c = ':' ∧ start < pos then
      some ⟨.value, pos + c.utf8Size, s, some (pos, pos + c.utf8Size)⟩
    else some ⟨.word, pos, c :: s, keyed?⟩
  | ⟨.value, pos, c :: s, keyed?⟩ =>
    match Quote.ofChar? c with
    | some q => some ⟨.quoted q, pos + c.utf8Size, s, keyed?⟩
    | none => some ⟨.word, pos, c :: s, keyed?⟩
  | ⟨.word, pos, c :: s, keyed?⟩ =>
    if isBlank c then none else some ⟨.word, pos + c.utf8Size, s, keyed?⟩
  | ⟨.quoted .double, pos, '\\' :: c :: s, keyed?⟩ =>
    some ⟨.quoted .double, pos + '\\'.utf8Size + c.utf8Size, s, keyed?⟩
  | ⟨.quoted q, pos, c :: s, keyed?⟩ =>
    if c = q.char then some ⟨.word, pos + c.utf8Size, s, keyed?⟩
    else some ⟨.quoted q, pos + c.utf8Size, s, keyed?⟩

/-- How much is left to do: twice the characters, and once more where the state has to change. -/
def work (m : Scanner) : Nat :=
  2 * m.rest.length +
    match m.state with
    | .key | .value => 1
    | .word | .quoted _ => 0

theorem work_step_lt {start : Nat} {m next : Scanner} (h : m.step start = some next) :
    next.work < m.work := by
  revert h
  fun_cases step start m <;> rintro ⟨⟩ <;> simp only [work, List.length_cons] <;> omega

/-- Steps up to the end of the token. -/
def run (start : Nat) (m : Scanner) : Scanner :=
  match _h : m.step start with
  | none => m
  | some next => run start next
termination_by m.work
decreasing_by exact work_step_lt _h

/-- The scanner before the rest of a token whose first character is `c`, at `start`. -/
def enter (start : Nat) (c : Char) (s : Text) : Scanner :=
  match Quote.ofChar? c with
  | some q => ⟨.quoted q, start + c.utf8Size, s, none⟩
  | none => ⟨.key, start, c :: s, none⟩

/-- The token that ends where the scanner stands. A quote is left open if the scanner is still
inside it. -/
def span (start : Nat) (m : Scanner) : Span :=
  ⟨start, m.pos, m.keyed?, match m.state with | .quoted _ => false | _ => true⟩

theorem run_of_step {start : Nat} {m next : Scanner} (h : m.step start = some next) :
    m.run start = next.run start := by
  rw [run]
  split
  · next hn =>
    rw [h] at hn
    cases hn
  · next n hn =>
    rw [h] at hn
    cases hn
    rfl

theorem run_of_end {start : Nat} {m : Scanner} (h : m.step start = none) : m.run start = m := by
  rw [run]
  split
  · rfl
  · next n hn =>
    rw [h] at hn
    cases hn

theorem length_rest_step_le {start : Nat} {m next : Scanner} (h : m.step start = some next) :
    next.rest.length ≤ m.rest.length := by
  revert h
  fun_cases step start m <;> rintro ⟨⟩ <;> simp only [List.length_cons] <;> omega

theorem length_rest_run_le (start : Nat) (m : Scanner) :
    (m.run start).rest.length ≤ m.rest.length := by
  fun_induction run start m with
  | case1 m h => exact Nat.le_refl _
  | case2 m next h ih => exact Nat.le_trans ih (length_rest_step_le h)

/-- A token has at least one character. -/
theorem length_rest_run_enter_lt (start : Nat) {c : Char} (s : Text) (hc : isBlank c = false) :
    ((enter start c s).run start).rest.length < (c :: s).length := by
  have hread (m : Scanner) (hm : m.rest = s) :
      (m.run start).rest.length < (c :: s).length := by
    have hle := length_rest_run_le start m
    rw [hm] at hle
    simp only [List.length_cons]
    omega
  unfold enter
  split
  · exact hread _ rfl
  · by_cases hk : isKeyChar c = true
    · have hstep : step start ⟨.key, start, c :: s, none⟩ =
          some ⟨.key, start + c.utf8Size, s, none⟩ := by simp [step, hk]
      rw [run_of_step hstep]
      exact hread _ rfl
    · have hstep : step start ⟨.key, start, c :: s, none⟩ = some ⟨.word, start, c :: s, none⟩ := by
        simp [step, hk]
      have hstep' : step start ⟨.word, start, c :: s, none⟩ =
          some ⟨.word, start + c.utf8Size, s, none⟩ := by simp [step, hc]
      rw [run_of_step hstep, run_of_step hstep']
      exact hread _ rfl

end Scanner

/-- The tokens from `pos` on, where `s` stands. -/
def scanFrom (pos : Nat) (s : Text) : List Span :=
  match _h : s.dropWhile isBlank with
  | [] => []
  | c :: rest =>
    let start := pos + byteLength (s.takeWhile isBlank)
    let last := (Scanner.enter start c rest).run start
    last.span start :: scanFrom last.pos last.rest
termination_by s.length
decreasing_by
  have hlt := Scanner.length_rest_run_enter_lt (pos + byteLength (s.takeWhile isBlank)) rest
    (isBlank_of_dropWhile _h)
  have hle := (List.dropWhile_suffix isBlank (l := s)).length_le
  rw [_h] at hle
  omega

/-- The places of the tokens of a query. -/
def scan (s : Text) : List Span := scanFrom 0 s

end LogFilter
