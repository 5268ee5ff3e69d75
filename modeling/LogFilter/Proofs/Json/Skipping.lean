import LogFilter.Proofs.Json.Grammar

/-!
# Passing over values

A JSON value that nobody asked for is passed over, up to what follows it. The brackets around it
stay on the stack, and a value of `n` characters takes no more than `n` steps.
-/

namespace LogFilter.Json

variable {t g rest : Text} {b : Bracket} {opened : List Bracket}

/-! ### Steps -/

/-- What is left to do after a step. -/
def goOn (steps : Nat) : Except Fault Progress → Except Fault Text
  | .error fault => .error fault
  | .ok (.done s) => .ok s
  | .ok (.value opened s) => skipValues steps opened s

theorem goOn_value (steps : Nat) (s : Text) :
    goOn steps (.ok (.value opened s)) = skipValues steps opened s := rfl

theorem skipValues_succ (steps : Nat) (opened : List Bracket) (s : Text) :
    skipValues (steps + 1) opened s = goOn steps (skipOne opened s) := by
  rw [skipValues]
  split <;> simp_all [goOn]

theorem skipBlanks_skipBlanks (s : Text) : skipBlanks (skipBlanks s) = skipBlanks s := by
  induction s with
  | nil => rfl
  | cons c s ih =>
      cases hc : isJsonBlank c with
      | false => rw [skipBlanks_cons hc, skipBlanks_cons hc]
      | true =>
          have hdrop : skipBlanks (c :: s) = skipBlanks s := List.dropWhile_cons_of_pos hc
          rw [hdrop, ih]

theorem skipOne_gap (hg : IsJsonGap g) (s : Text) : skipOne opened (g ++ s) = skipOne opened s := by
  rw [skipOne, skipBlanks_gap hg]
  rfl

theorem afterValue_gap (hg : IsJsonGap g) (s : Text) :
    afterValue (b :: opened) (g ++ s) = afterValue (b :: opened) s := by
  rw [afterValue, skipBlanks_gap hg, afterValue]

theorem afterValue_comma (s : Text) :
    afterValue (b :: opened) (',' :: s) = (b.skipLead s).map (.value (b :: opened)) := by
  rw [afterValue, skipBlanks_cons (by decide)]
  exact if_pos rfl

theorem afterValue_close (s : Text) :
    afterValue (b :: opened) (b.close :: s) = afterValue opened s := by
  cases b <;> rw [afterValue, skipBlanks_cons (by decide)] <;> rfl

theorem skipLead_append {lead : Text} (h : IsLead b lead) (s : Text) :
    b.skipLead (lead ++ s) = .ok s := by
  cases h with
  | list => rfl
  | object hg hname hg' =>
      simp only [List.append_assoc, List.cons_append, List.nil_append, Bracket.skipLead]
      rw [skipMark_gap hg (by decide), ok_bind, skipString_append hname, ok_bind,
        skipMark_gap hg' (by decide)]

/-- White space before the first item is left to the next step. -/
theorem goOn_skipLead_skipBlanks (steps : Nat) (s : Text) :
    goOn (steps + 1) ((b.skipLead (skipBlanks s)).map (.value (b :: opened))) =
      goOn (steps + 1) ((b.skipLead s).map (.value (b :: opened))) := by
  cases b with
  | list =>
      simp only [Bracket.skipLead, map_ok, goOn, skipValues_succ, skipOne, skipBlanks_skipBlanks]
  | object => simp only [Bracket.skipLead, skipMark, skipBlanks_skipBlanks]

/-! ### One value -/

theorem numberStart {c : Char} (hc : c = '-' ∨ c.isDigit = true) :
    isJsonBlank c = false ∧ c ∉ ['n', 't', 'f', '"', '[', '\x7b', ']'] := by
  rcases hc with rfl | hc
  · decide
  · refine ⟨isJsonBlank_of_isDigit hc, fun hmem => ?_⟩
    have hall : ['n', 't', 'f', '"', '[', '\x7b', ']'].all (!·.isDigit) = true := by decide
    simpa [hc] using List.all_eq_true.mp hall c hmem

theorem skipOne_number {c : Char} (hc : c = '-' ∨ c.isDigit = true) (s : Text) :
    skipOne opened (c :: s) =
      (scanNumber .malformed (c :: s)).bind fun (_, s) => afterValue opened s := by
  obtain ⟨hblank, hother⟩ := numberStart hc
  simp only [List.mem_cons, List.not_mem_nil, not_or] at hother
  unfold skipOne
  rw [skipBlanks_cons hblank]
  split
  · next heq => cases heq
  · next heq => exact absurd (List.cons.inj heq).1 hother.1
  · next heq => exact absurd (List.cons.inj heq).1 hother.2.1
  · next heq => exact absurd (List.cons.inj heq).1 hother.2.2.1
  · next heq => exact absurd (List.cons.inj heq).1 hother.2.2.2.1
  · next heq => exact absurd (List.cons.inj heq).1 hother.2.2.2.2.1
  · next heq => exact absurd (List.cons.inj heq).1 hother.2.2.2.2.2.1
  · next heq =>
    obtain ⟨rfl, rfl⟩ := List.cons.inj heq
    exact if_pos hc

theorem Bracket.opening_spec (b : Bracket) : isJsonBlank b.opening = false ∧ b.opening ≠ ']' := by
  cases b <;> decide

theorem skipOne_opening (s : Text) :
    skipOne opened (b.opening :: s) = afterOpening b opened s := by
  cases b <;> rw [skipOne, skipBlanks_cons (by decide)] <;> rfl

/-- A text that starts with neither white space nor the end of a list. -/
def StartsItem (t : Text) : Prop := ∃ c u, t = c :: u ∧ isJsonBlank c = false ∧ c ≠ ']'

theorem IsJsonValue.startsItem (h : IsJsonValue t) : StartsItem t := by
  cases h with
  | null => exact ⟨'n', _, rfl, rfl, by decide⟩
  | true => exact ⟨'t', _, rfl, rfl, by decide⟩
  | false => exact ⟨'f', _, rfl, rfl, by decide⟩
  | number h =>
      obtain ⟨c, u, rfl, hc⟩ := h.exists_cons
      obtain ⟨hblank, hother⟩ := numberStart hc
      exact ⟨c, u, rfl, hblank, fun heq => hother (by simp [heq])⟩
  | string _ => exact ⟨'"', _, rfl, rfl, by decide⟩
  | empty b _ => exact ⟨_, _, rfl, b.opening_spec⟩
  | @brackets b _ _ => exact ⟨_, _, rfl, b.opening_spec⟩

/-- Neither a list nor an object ends where an item starts. -/
theorem exists_skipBlanks_item {lead : Text} (hlead : IsLead b lead) (hg : IsJsonGap g)
    (ht : IsJsonValue t) (s : Text) :
    ∃ c u, skipBlanks (lead ++ (g ++ (t ++ s))) = c :: u ∧ c ≠ b.close := by
  cases hlead with
  | list =>
      obtain ⟨c, u, rfl, hblank, hclose⟩ := ht.startsItem
      exact ⟨c, u ++ s, skipBlanks_gap_cons hg hblank _, hclose⟩
  | object hname _ _ =>
      rw [List.append_assoc, List.cons_append]
      exact ⟨'"', _, skipBlanks_gap_cons hname (by decide) _, by decide⟩

theorem IsPart.exists_skipBlanks (h : IsPart (.items b) t) (rest : Text) :
    ∃ c u, skipBlanks (t ++ rest) = c :: u ∧ c ≠ b.close := by
  cases h with
  | one hlead hg ht _ =>
      simp only [List.append_assoc]
      exact exists_skipBlanks_item hlead hg ht _
  | more hlead hg ht _ _ =>
      simp only [List.append_assoc]
      exact exists_skipBlanks_item hlead hg ht _

theorem afterOpening_empty (hg : IsJsonGap g) (s : Text) :
    afterOpening b opened (g ++ b.close :: s) = afterValue opened s := by
  cases b <;> rw [afterOpening, skipBlanks_gap_cons hg (by decide)] <;> rfl

theorem afterOpening_items {s u : Text} {c : Char} (hs : skipBlanks s = c :: u)
    (hc : c ≠ b.close) :
    afterOpening b opened s = (b.skipLead (skipBlanks s)).map (.value (b :: opened)) := by
  rw [afterOpening, hs]
  exact if_neg hc

theorem endsNumber_close (b : Bracket) (s : Text) : EndsNumber (b.close :: s) := by
  cases b <;> exact endsNumber_cons (by decide) s

/-! ### All values -/

/-- A part takes no more steps than it has characters. -/
def Passed : Part → Text → Prop
  | .value, t => ∀ g opened rest, IsJsonGap g → EndsNumber rest → ∃ k < t.length, ∀ steps,
      skipValues (steps + (k + 1)) opened (g ++ (t ++ rest)) = goOn steps (afterValue opened rest)
  | .items b, t => ∀ opened rest, EndsNumber rest → ∃ k < t.length, ∀ steps,
      goOn (steps + (k + 1)) ((b.skipLead (t ++ rest)).map (.value (b :: opened))) =
        goOn steps (afterValue (b :: opened) rest)

theorem passed_of_skipOne (hne : t ≠ [])
    (h : ∀ opened rest, EndsNumber rest → skipOne opened (t ++ rest) = afterValue opened rest) :
    Passed .value t := by
  intro g opened rest hg hrest
  refine ⟨0, List.length_pos_iff.mpr hne, fun steps => ?_⟩
  rw [skipValues_succ, skipOne_gap hg, h opened rest hrest]

theorem passed_of_isPart {part : Part} (h : IsPart part t) : Passed part t := by
  induction h with
  | null => exact passed_of_skipOne nofun fun opened rest _ => rfl
  | true => exact passed_of_skipOne nofun fun opened rest _ => rfl
  | false => exact passed_of_skipOne nofun fun opened rest _ => rfl
  | number h =>
      obtain ⟨c, u, rfl, hc⟩ := h.exists_cons
      refine passed_of_skipOne nofun fun opened rest hrest => ?_
      obtain ⟨n, hn⟩ := exists_scanNumber .malformed h hrest
      rw [List.cons_append, skipOne_number hc, ← List.cons_append, hn]
      rfl
  | string h =>
      refine passed_of_skipOne nofun fun opened rest _ => ?_
      rw [List.cons_append, List.append_assoc]
      change (skipString _).bind (afterValue opened) = _
      rw [List.singleton_append, skipString_append h]
      rfl
  | empty b hg =>
      refine passed_of_skipOne nofun fun opened rest _ => ?_
      rw [List.cons_append, List.append_assoc, skipOne_opening, List.singleton_append,
        afterOpening_empty hg]
  | @brackets b t hitems ih =>
      intro g opened rest hg _
      obtain ⟨k, hk, hpassed⟩ := ih opened (b.close :: rest) (endsNumber_close b rest)
      obtain ⟨c, u, hs, hc⟩ := hitems.exists_skipBlanks (b.close :: rest)
      refine ⟨k + 1, by simp; omega, fun steps => ?_⟩
      rw [List.cons_append, List.append_assoc, List.singleton_append, ← Nat.add_assoc steps,
        skipValues_succ, skipOne_gap hg, skipOne_opening, afterOpening_items hs hc,
        ← Nat.add_assoc, goOn_skipLead_skipBlanks, Nat.add_assoc, hpassed, afterValue_close]
  | @one b lead g t g' hlead hg _ hg' ih =>
      intro opened rest hrest
      obtain ⟨k, hk, hpassed⟩ := ih g (b :: opened) (g' ++ rest) hg (hg'.endsNumber_append hrest)
      refine ⟨k, by simp; omega, fun steps => ?_⟩
      simp only [List.append_assoc, skipLead_append hlead, map_ok]
      rw [goOn_value, hpassed, afterValue_gap hg']
  | @more b lead g t g' u hlead hg _ hg' _ ih ihu =>
      intro opened rest hrest
      have hcomma : EndsNumber (g' ++ ',' :: (u ++ rest)) :=
        hg'.endsNumber_append (endsNumber_cons (by decide) _)
      obtain ⟨k, hk, hpassed⟩ := ih g (b :: opened) _ hg hcomma
      obtain ⟨k', hk', hpassed'⟩ := ihu opened rest hrest
      refine ⟨k' + 1 + k, by simp; omega, fun steps => ?_⟩
      have hsteps : steps + (k' + 1 + k + 1) = steps + (k' + 1) + (k + 1) := by omega
      simp only [List.append_assoc, List.cons_append, skipLead_append hlead, map_ok]
      rw [goOn_value, hsteps, hpassed, afterValue_gap hg', afterValue_comma, hpassed']

/-- A value is passed over exactly. -/
theorem skipValue_append (h : IsJsonValue t) (hg : IsJsonGap g) (hrest : EndsNumber rest) :
    skipValue (g ++ (t ++ rest)) = .ok rest := by
  obtain ⟨k, hk, hpassed⟩ := passed_of_isPart h g [] rest hg hrest
  have hsteps : (g ++ (t ++ rest)).length + 1 =
      (g ++ (t ++ rest)).length - k + (k + 1) := by
    simp only [List.length_append]
    omega
  rw [skipValue, hsteps, hpassed]
  rfl

end LogFilter.Json
