import LogFilter.Proofs.Query.Offsets

/-!
# The clause at a cursor

A cursor touches a clause from the offset before its first character up to the one behind its last,
both included. In a query no cursor touches two clauses, and a cursor that touches none stands among
blanks or past the end (`clauseAt?_parse`).
-/

namespace LogFilter

/-! ## Touching -/

namespace Clause

theorem touches_iff {p : Nat} {c : Clause} : c.touches p = true ↔ c.start ≤ p ∧ p ≤ c.stop := by
  simp [touches]

theorem not_touches_iff {p : Nat} {c : Clause} :
    c.touches p = false ↔ p < c.start ∨ c.stop < p := by
  rw [← Bool.not_eq_true, touches_iff, not_and_or, Nat.not_le, Nat.not_le]

/-- Saturation only makes clauses shorter. -/
theorem stop_le (c : Clause) : c.stop ≤ c.spot.stop := Nat.min_le_left _ _

/-- No clause is saturated in a query that offsets can measure. -/
theorem stop_eq_of_mem_parse {s : Text} {c : Clause} (h : c ∈ parse s)
    (hs : byteLength s ≤ maxOffset) : c.stop = c.spot.stop :=
  Nat.min_eq_left (Nat.le_trans (stop_le_of_mem_parse h) hs)

end Clause

/-- Whether a cursor touches at most one of the clauses. -/
def OneTouched (p : Nat) (clauses : List Clause) : Prop :=
  clauses.Pairwise fun c d => ¬ (c.touches p = true ∧ d.touches p = true)

theorem clauseAt?_eq_none_iff {p : Nat} {clauses : List Clause} :
    clauseAt? p clauses = none ↔ ∀ c ∈ clauses, p < c.start ∨ c.stop < p := by
  simp only [clauseAt?, List.findIdx?_eq_none_iff, Clause.not_touches_iff]

/-- The first clause that the cursor touches is then the one that it touches. -/
theorem OneTouched.clauseAt?_eq_some_iff {p : Nat} {clauses : List Clause}
    (h : OneTouched p clauses) {i : Nat} :
    clauseAt? p clauses = some i ↔ ∃ c ∈ clauses[i]?, c.touches p = true := by
  rw [clauseAt?, List.findIdx?_eq_some_iff_getElem]
  constructor
  · rintro ⟨hi, ht, _⟩
    exact ⟨clauses[i], List.getElem?_eq_getElem hi, ht⟩
  · rintro ⟨c, hc, ht⟩
    obtain ⟨hi, rfl⟩ := List.getElem?_eq_some_iff.mp hc
    refine ⟨hi, ht, ?_⟩
    intro j hji hj
    exact List.pairwise_iff_getElem.mp h j i (Nat.lt_trans hji hi) hi hji ⟨hj, ht⟩

/-! ## Cursors in a query -/

/-- At least one byte stands between two clauses of a query, so that no cursor touches both. -/
theorem oneTouched_parse (s : Text) (p : Nat) : OneTouched p (parse s) := by
  have hspots := List.pairwise_map.mp (spaced_parse s).pairwise
  refine hspots.imp ?_
  rintro c d hbefore ⟨hc, hd⟩
  have hstop : p ≤ c.spot.stop := Nat.le_trans (Clause.touches_iff.mp hc).2 c.stop_le
  have hstart : d.start ≤ p := (Clause.touches_iff.mp hd).1
  exact Nat.lt_irrefl p (Nat.lt_of_le_of_lt hstop (Nat.lt_of_lt_of_le hbefore hstart))

/-- Whether a cursor stands among blanks: on each side of it is a blank, or the end of the text. A
cursor inside a character has that character on both sides. -/
def AmongBlanks (s : Text) (p : Nat) : Prop :=
  ∃ start stop, GapBetween s start stop ∧ start ≤ p ∧ p ≤ stop ∧ (start < p ∨ p = 0) ∧
    (p < stop ∨ p = byteLength s)

/-- A cursor between the texts that are spread over another one stands among blanks. -/
theorem Spread.amongBlanks {offset : Nat} {s : Text} {spots : List Spot}
    (h : Spread offset s spots) (before : Text) (hb : byteLength before = offset) {p : Nat}
    (hstart : offset ≤ p) (hpast : offset < p ∨ p = 0) (hstop : p ≤ byteLength (before ++ s))
    (haway : ∀ q ∈ spots, p < q.start ∨ q.stop < p) : AmongBlanks (before ++ s) p := by
  induction h generalizing before with
  | @blanks offset s hs =>
      subst hb
      have hslice := Text.slice?_append_end before s
      exact ⟨_, _, ⟨s, hslice, hs⟩, hstart, hstop, hpast, Nat.lt_or_eq_of_le hstop⟩
  | @spot offset gap own rest spots hg hlt _ ih =>
      subst hb
      rcases haway _ List.mem_cons_self with hbefore | hbehind
      · -- the cursor is in the gap before this text
        have hslice := Text.slice?_append before gap (own ++ rest)
        exact ⟨_, _, ⟨gap, hslice, hg⟩, hstart, Nat.le_of_lt hbefore, hpast, .inl hbefore⟩
      · have hassoc : before ++ (gap ++ (own ++ rest)) = before ++ gap ++ own ++ rest := by
          simp only [List.append_assoc]
        have hlen : byteLength (before ++ gap ++ own) =
            byteLength before + byteLength gap + byteLength own := by
          simp only [byteLength_append]
        rw [hassoc] at hstop ⊢
        refine ih _ hlen (Nat.le_of_lt hbehind) (.inl hbehind) hstop ?_
        intro q hq
        exact haway q (List.mem_cons_of_mem _ hq)

/-- Whether a cursor stands among blanks and touches no clause, neither inside nor at its ends. -/
structure BetweenClauses (s : Text) (p : Nat) : Prop where
  blanks : AmongBlanks s p
  away : ∀ c ∈ parse s, p < c.start ∨ c.stop < p

theorem betweenClauses_of_clauseAt? {s : Text} {p : Nat} (hs : byteLength s ≤ maxOffset)
    (hp : p ≤ byteLength s) (h : clauseAt? p (parse s) = none) : BetweenClauses s p := by
  have haway := clauseAt?_eq_none_iff.mp h
  refine ⟨?_, haway⟩
  refine (spread_parse s).amongBlanks [] rfl (Nat.zero_le p) (Nat.eq_zero_or_pos p).symm hp ?_
  intro q hq
  obtain ⟨c, hc, rfl⟩ := List.mem_map.mp hq
  rw [← Clause.stop_eq_of_mem_parse hc hs]
  exact haway c hc

/-- A cursor touches at most one clause of a query, and that is the one found. In a query that
offsets can measure, none is found exactly past the end and among blanks, away from all clauses. -/
theorem clauseAt?_parse (s : Text) (p : Nat) :
    OneTouched p (parse s) ∧
      (∀ i, clauseAt? p (parse s) = some i ↔ ∃ c ∈ (parse s)[i]?, c.touches p = true) ∧
      (byteLength s ≤ maxOffset →
        (clauseAt? p (parse s) = none ↔ byteLength s < p ∨ BetweenClauses s p)) := by
  refine ⟨oneTouched_parse s p, fun i => (oneTouched_parse s p).clauseAt?_eq_some_iff, ?_⟩
  intro hs
  constructor
  · intro h
    rcases Nat.lt_or_ge (byteLength s) p with hpast | hp
    · exact .inl hpast
    · exact .inr (betweenClauses_of_clauseAt? hs hp h)
  · intro h
    rw [clauseAt?_eq_none_iff]
    intro c hc
    rcases h with hpast | hbetween
    · have hstop : c.stop ≤ byteLength s :=
        Nat.le_trans c.stop_le (Clause.stop_le_of_mem_parse hc)
      exact .inr (Nat.lt_of_le_of_lt hstop hpast)
    · exact hbetween.away c hc

theorem clauseAt?_parse_wide_blank :
    let s : Text := " é\u3000 k:v  "
    byteLength s ≤ maxOffset ∧
      parse s = [.body "é" 1, .field "k" "v" 7, .body [] 12] ∧
      clauseAt? 3 (parse s) = some 0 ∧ BetweenClauses s 5 ∧ clauseAt? 12 (parse s) = some 2 ∧
      clauseAt? 13 (parse s) = none := by
  intro s
  have hlen : byteLength s ≤ maxOffset := by decide
  have hparse : parse s = [.body "é" 1, .field "k" "v" 7, .body [] 12] := by decide +kernel
  refine ⟨hlen, hparse, ?_, ?_, ?_, ?_⟩
  · rw [(clauseAt?_parse s 3).2.1, hparse]
    exact ⟨.body "é" 1, rfl, rfl⟩
  · have hnone : clauseAt? 5 (parse s) = none := by
      rw [hparse]
      decide
    exact (((clauseAt?_parse s 5).2.2 hlen).mp hnone).resolve_left (by decide)
  · rw [(clauseAt?_parse s 12).2.1, hparse]
    exact ⟨.body [] 12, rfl, rfl⟩
  · exact ((clauseAt?_parse s 13).2.2 hlen).mpr (.inl (by decide))

end LogFilter
