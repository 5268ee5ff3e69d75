import LogFilter.Proofs.Query.Offsets
import LogFilter.Query.Problem

/-!
# Where the problems of a query are

A key whose colon has nothing but a blank or the end of the text behind it lacks a value, and blanks
behind a last token with a key begin a search text that is empty. These are all the problems of a
query, from left to right (`problems_parse`).
-/

namespace LogFilter

/-! ## What stands at an offset -/

namespace Text

/-- The text behind a byte offset. There is none inside a character or past the end. -/
def behind? (s : Text) (offset : Nat) : Option Text := (splitBytes? offset s).map Prod.snd

theorem behind?_append (before rest : Text) :
    (before ++ rest).behind? (byteLength before) = some rest := by
  have hcut : splitBytes? (byteLength before) (before ++ rest) = some (before, rest) :=
    splitBytes?_eq_some.mpr ⟨rfl, rfl⟩
  rw [behind?, hcut, Option.map_some]

/-- Whether a blank stands at an offset. -/
def blankAt (s : Text) (offset : Nat) : Bool := (s.behind? offset).any (·.head?.any isBlank)

/-- Whether a blank or the end of the text stands at an offset. -/
def boundaryAt (s : Text) (offset : Nat) : Bool := (s.behind? offset).any (·.head?.all isBlank)

end Text

/-! ## Problems of clauses -/

namespace Clause

theorem problem?_eq_none_iff {c : Clause} : c.problem? = none ↔ c.value ≠ [] := by
  obtain ⟨key, value, start⟩ := c
  by_cases hvalue : value = [] <;> cases key <;> simp [problem?, hvalue]

theorem offset_of_problem? {c : Clause} {p : Problem} (h : c.problem? = some p) :
    p.offset = c.start := by
  obtain ⟨key, value, start⟩ := c
  by_cases hvalue : value = []
  · cases key <;> simp [problem?, hvalue] at h <;> subst h <;> rfl
  · simp [problem?, hvalue] at h

end Clause

theorem problems_cons (c : Clause) (clauses : List Clause) :
    problems (c :: clauses) = c.problem?.toList ++ problems clauses := by
  rw [problems, List.filterMap_cons]
  cases c.problem? <;> rfl

theorem problems_append (clauses more : List Clause) :
    problems (clauses ++ more) = problems clauses ++ problems more :=
  List.filterMap_append

/-- Clauses are valid if there is no problem to report. -/
theorem isValid_iff {clauses : List Clause} : isValid clauses = true ↔ problems clauses = [] := by
  simp only [isValid, problems, List.all_eq_true, List.filterMap_eq_nil_iff,
    Clause.problem?_eq_none_iff, Bool.not_eq_true', List.isEmpty_eq_false_iff]

/-- The problems of a query are in order, each at an offset of its own. -/
theorem pairwise_problems_parse (s : Text) :
    (problems (parse s)).Pairwise fun p q => p.offset < q.offset := by
  have hstarts : (parse s).Pairwise fun c d => c.start < d.start := by
    refine (List.pairwise_map.mp (spaced_parse s).pairwise).imp ?_
    intro c d hbefore
    exact Nat.lt_of_le_of_lt (Nat.le_add_right _ _) hbefore
  refine List.pairwise_filterMap.mpr (hstarts.imp ?_)
  intro c d hlt p hp q hq
  rwa [Clause.offset_of_problem? hp, Clause.offset_of_problem? hq]

/-! ## Problems of tokens -/

namespace Token

/-- The problem of a token that has a key and no value. -/
def emptyValue? (t : Token) : Option Problem := do
  let key ← t.lexeme.key
  if t.lexeme.value = [] then some (.emptyValue key t.start) else none

/-- The problem of a token of a text that has a key, and right behind its colon a blank or the end
of the text. -/
def problem? (s : Text) (t : Token) : Option Problem := do
  let key ← t.lexeme.key
  let (_, valueStart) ← t.keyed?
  if s.boundaryAt valueStart then some (.emptyValue key t.start) else none

end Token

/-- Free text is not empty, so that it is no problem, joined or not. -/
theorem problems_place_prepend {offset : Nat} {gap word : Text} {runs : List Run} (hw : word ≠ [])
    (hruns : ∀ c ∈ place (offset + byteLength gap + byteLength word) runs,
      c.content ≠ (.body, [])) :
    problems (place offset (Run.prepend gap word runs)) =
      problems (place (offset + byteLength gap + byteLength word) runs) := by
  have hbody (value : Text) (start : Nat) (h : value ≠ []) :
      Clause.problem? ⟨.body, value, start⟩ = none := Clause.problem?_eq_none_iff.mpr h
  fun_cases Run.prepend gap word runs with
  | case1 inner value runs =>
      have hvalue : value ≠ [] := by
        rintro rfl
        exact hruns _ List.mem_cons_self rfl
      simp only [place, problems_cons, Run.text_body, byteLength_append, Nat.add_assoc]
      rw [hbody _ _ (by simp [hw]), hbody _ _ hvalue]
  | case2 =>
      rw [place, problems_cons, hbody word _ hw, Run.text_body]
      rfl

/-- Joined to runs or not, the lexemes with a key and no value are the problems. -/
theorem Laid.problems_place {pieces : List Piece} {s : Text} (h : Laid pieces s) (offset : Nat) :
    problems (place offset (Run.ofPieces pieces)) =
      (tokensFrom offset pieces).filterMap Token.emptyValue? := by
  induction h generalizing offset with
  | trailing => rfl
  | @piece gap l pieces s hg hl hb hrest ih =>
      cases hl with
      | @keyed key value closed hk hv =>
          have hhead : (Clause.problem? ⟨.field key, value, offset + byteLength gap⟩) =
              Token.emptyValue? ⟨offset + byteLength gap, some key, value, closed⟩ := rfl
          rw [Run.ofPieces, place, problems_cons, ih, tokensFrom, hhead, List.filterMap_cons]
          cases Token.emptyValue? ⟨offset + byteLength gap, some key, value, closed⟩ <;> rfl
      | @free value closed hne hk hv =>
          -- The text may join a body behind it, which is not empty: `place` makes no empty body,
          -- only `parse` does, behind all runs.
          have hruns : ∀ c ∈ place (offset + byteLength gap + byteLength value)
              (Run.ofPieces pieces), c.content ≠ (.body, []) :=
            fun c => content_ne_of_mem_place hrest.laidRuns
          rw [Run.ofPieces, problems_place_prepend hne hruns, ih, tokensFrom,
            List.filterMap_cons_none rfl]
          rfl

/-! ## Problems in the text -/

/-- A token stands in the text between what is before it and a boundary. -/
theorem Tokenized.exists_boundary {offset : Nat} {s : Text} {ts : List Token}
    (h : Tokenized offset s ts) : ∀ t ∈ ts, ∃ before after,
      s = before ++ (t.lexeme.text ++ after) ∧ offset + byteLength before = t.start ∧
        Boundary t.lexeme.closed after := by
  induction h with
  | blanks => simp
  | @token offset gap l rest ts hg hl hb _ ih =>
      intro t ht
      rcases List.mem_cons.mp ht with rfl | ht
      · exact ⟨gap, rest, rfl, rfl, hb⟩
      · obtain ⟨before, after, rfl, hstart, hboundary⟩ := ih t ht
        refine ⟨gap ++ (l.text ++ before), after, by simp, ?_, hboundary⟩
        simp only [byteLength_append]
        omega

/-- Before a boundary, a value without characters is one that a blank or the end follows at once. -/
theorem IsValue.head?_all_isBlank_iff {value after : Text} {closed : Bool} (h : IsValue value closed)
    (hb : Boundary closed after) : (value ++ after).head?.all isBlank = true ↔ value = [] := by
  cases value with
  | nil =>
      have hblank : ∀ c ∈ after.head?, isBlank c = true := hb.head_blank
      simpa [Option.all_eq_true] using hblank
  | cons c value => simpa using h.head_not_blank c rfl

theorem Token.problem?_eq {s : Text} {t : Token} (ht : t ∈ tokens s) :
    t.problem? s = t.emptyValue? := by
  obtain ⟨before, after, hs, hstart, hb⟩ := (tokenized_tokens s).exists_boundary t ht
  have hv : IsValue t.lexeme.value t.lexeme.closed := ((tokenized_tokens s).valid t ht).isValue
  obtain ⟨start, key, value, closed⟩ := t
  cases key with
  | none => rfl
  | some key =>
      have hbehind : s.behind? (start + byteLength key + 1) = some (value ++ after) := by
        obtain rfl : byteLength before = start := by simpa using hstart
        have h := Text.behind?_append (before ++ key ++ [':']) (value ++ after)
        rw [hs, Lexeme.text_keyed]
        simpa [Nat.add_assoc] using h
      simp only [problem?, emptyValue?, keyed?, Option.map_some, Option.bind_eq_bind, Option.bind_some,
        Text.boundaryAt, hbehind, Option.any_some, hv.head?_all_isBlank_iff hb]

/-- Whether the last token has a key, and a blank behind it. -/
def endsInPrompt (s : Text) : Bool :=
  (tokens s).getLast?.any fun t => t.lexeme.key.isSome && s.blankAt t.stop

theorem behind?_stop_of_getLast? {s : Text} {t : Token} (h : t ∈ (tokens s).getLast?) :
    s.behind? t.stop = some (layout s).trailing := by
  obtain ⟨before, after, hs, hstop, hlen⟩ := Text.slice?_eq_some_iff.mp (slice?_trailing h)
  have hbytes := congrArg byteLength hs
  simp only [byteLength_append] at hbytes
  have hafter : after = [] := byteLength_eq_zero.mp (by omega)
  have hbehind := Text.behind?_append before ((layout s).trailing ++ after)
  rw [← hs, hstop, hafter, List.append_nil] at hbehind
  exact hbehind

theorem blankAt_stop_of_getLast? {s : Text} {t : Token} (h : t ∈ (tokens s).getLast?) :
    s.blankAt t.stop = true ↔ (layout s).trailing ≠ [] := by
  have hgap : IsGap (layout s).trailing := (laidRuns_layout s).1.isGap_trailing
  rw [Text.blankAt, behind?_stop_of_getLast? h, Option.any_some]
  cases htrail : (layout s).trailing with
  | nil => simp
  | cons c rest =>
      rw [htrail] at hgap
      simpa using hgap c List.mem_cons_self

theorem endsInPrompt_iff (s : Text) :
    endsInPrompt s = true ↔ (layout s).trailing ≠ [] ∧ endsKeyed s = true := by
  rw [endsInPrompt, endsKeyed]
  cases hlast : (tokens s).getLast? with
  | none => simp
  | some t =>
      simp [← blankAt_stop_of_getLast? (Option.mem_def.mpr hlast), and_comm]

/-- The problems of a query, in order: each key with a blank or the end of the text right behind its
colon, and at the end of the text the empty search text, if the last token has a key and a blank
behind it. Clauses are valid, of a query or not, if they have no problem. -/
theorem problems_parse (s : Text) :
    problems (parse s) = (tokens s).filterMap (Token.problem? s) ++
        (if endsInPrompt s then [.emptyBody (byteLength s)] else []) ∧
      (problems (parse s)).Pairwise (fun p q => p.offset < q.offset) ∧
      ∀ clauses, isValid clauses = true ↔ problems clauses = [] := by
  refine ⟨?_, pairwise_problems_parse s, fun _ => isValid_iff⟩
  have hlaid : Laid (layout s).pieces (layout s).trailing := layout_valid s
  have htokens : (tokens s).filterMap (Token.problem? s) =
      (tokens s).filterMap Token.emptyValue? :=
    List.filterMap_congr fun t ht => Token.problem?_eq ht
  rw [parse_eq_append, problems_append, hlaid.problems_place, htokens]
  simp only [← endsInPrompt_iff]
  split <;> rfl

/-- A second colon is a value. The last token lacks one, and has a blank behind it as well. -/
example : problems (parse "a: b::\u3000k: ") =
    [.emptyValue "a" 0, .emptyValue "k" 9, .emptyBody 12] := by decide +kernel

end LogFilter
