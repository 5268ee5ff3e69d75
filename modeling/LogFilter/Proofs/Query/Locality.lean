import LogFilter.Proofs.Query.Offsets

/-!
# Reading one part of a query after the other

Two queries in a row, with blanks between them and no quote left open in the first, are read as
they are read alone (`parse_append`). Only free text on both sides of the seam becomes one clause,
and the empty search text at the end of the first query goes.
-/

namespace LogFilter

/-! ## Runs in a row -/

namespace Run

/-- Two lists of runs in a row. Free text on both sides of the seam is one run. -/
def join : List Run → List Run → List Run
  | [], after => after
  | [⟨gap, .body, value⟩], after => prepend gap value after
  | r :: runs, after => r :: join runs after

/-- More blanks in front of the first of the runs. -/
def widen (blanks : Text) : List Run → List Run
  | [] => []
  | ⟨gap, key, value⟩ :: runs => ⟨blanks ++ gap, key, value⟩ :: runs

@[simp] theorem join_nil (after : List Run) : join [] after = after := rfl

@[simp] theorem join_field (gap name value : Text) (runs after : List Run) :
    join (⟨gap, .field name, value⟩ :: runs) after =
      ⟨gap, .field name, value⟩ :: join runs after := by
  cases runs <;> rfl

@[simp] theorem join_cons_cons (r next : Run) (runs after : List Run) :
    join (r :: next :: runs) after = r :: join (next :: runs) after := by
  rw [join]
  simp

@[simp] theorem widen_widen (b c : Text) (runs : List Run) :
    widen b (widen c runs) = widen (b ++ c) runs := by
  cases runs with
  | nil => rfl
  | cons r runs => simp [widen]

theorem prepend_prepend (gap word inner value : Text) (runs : List Run) :
    prepend gap word (prepend inner value runs) = prepend gap (word ++ inner ++ value) runs := by
  fun_cases prepend inner value runs with
  | case1 => simp [prepend]
  | case2 => simp [prepend]

/-- A lexeme without a key joins the first of the runs, whatever follows them. -/
theorem prepend_join (gap word : Text) (runs after : List Run) :
    prepend gap word (join runs after) = join (prepend gap word runs) after := by
  cases runs with
  | nil => rfl
  | cons r runs =>
      obtain ⟨inner, key, value⟩ := r
      cases key with
      | field name => simp [prepend]
      | body =>
          cases runs with
          | nil => exact prepend_prepend gap word inner value after
          | cons next runs => simp [prepend]

theorem ofPieces_append (pieces more : List Piece) :
    ofPieces (pieces ++ more) = join (ofPieces pieces) (ofPieces more) := by
  induction pieces with
  | nil => rfl
  | cons p pieces ih =>
      obtain ⟨gap, key, value, closed⟩ := p
      cases key with
      | some name => rw [List.cons_append, ofPieces, ih, ofPieces, join_field]
      | none => rw [List.cons_append, ofPieces, ih, ofPieces, prepend_join]

theorem widen_prepend (blanks gap word : Text) (runs : List Run) :
    widen blanks (prepend gap word runs) = prepend (blanks ++ gap) word runs := by
  fun_cases prepend gap word runs with
  | case1 => simp [prepend, widen]
  | case2 => simp [prepend, widen]

theorem ofPieces_widen (blanks : Text) (p : Piece) (pieces : List Piece) :
    ofPieces (⟨blanks ++ p.gap, p.lexeme⟩ :: pieces) = widen blanks (ofPieces (p :: pieces)) := by
  obtain ⟨gap, key, value, closed⟩ := p
  cases key with
  | some name => rfl
  | none => rw [ofPieces, ofPieces, widen_prepend]

theorem join_ne_nil {after : List Run} (h : after ≠ []) (runs : List Run) :
    join runs after ≠ [] := by
  fun_cases join runs after with
  | case1 => exact h
  | case2 gap value =>
      unfold prepend
      split <;> exact List.cons_ne_nil _ _
  | case3 => exact List.cons_ne_nil _ _

/-- What stands behind the first run after the seam is out of reach. -/
theorem join_append (runs : List Run) {after : List Run} (h : after ≠ []) (last : List Run) :
    join runs (after ++ last) = join runs after ++ last := by
  fun_induction join runs after with
  | case1 => rfl
  | case2 gap value after =>
      obtain ⟨⟨inner, key, rest⟩, after, rfl⟩ := List.exists_cons_of_ne_nil h
      cases key <;> rfl
  | case3 r runs after hlast ih => rw [join, ih h, List.cons_append]; exact hlast

theorem widen_append (blanks : Text) {runs : List Run} (h : runs ≠ []) (last : List Run) :
    widen blanks (runs ++ last) = widen blanks runs ++ last := by
  obtain ⟨r, runs, rfl⟩ := List.exists_cons_of_ne_nil h
  rfl

theorem widen_ne_nil (blanks : Text) {runs : List Run} (h : runs ≠ []) :
    widen blanks runs ≠ [] := by
  obtain ⟨r, runs, rfl⟩ := List.exists_cons_of_ne_nil h
  exact List.cons_ne_nil _ _

theorem any_getLast?_widen (blanks : Text) (runs : List Run) :
    (widen blanks runs).getLast?.any isField = runs.getLast?.any isField := by
  cases runs with
  | nil => rfl
  | cons r runs => cases runs <;> rfl

/-- The last run of a row is a field if the last one behind the seam is. -/
theorem any_getLast?_join (runs : List Run) {after : List Run} (h : after ≠ []) :
    (join runs after).getLast?.any isField = after.getLast?.any isField := by
  fun_induction join runs after with
  | case1 => rfl
  | case2 gap value after => exact any_getLast?_prepend gap value after
  | case3 r runs after _ ih => rw [List.getLast?_cons_of_ne_nil (join_ne_nil h runs), ih h]

/-- Where a field stands on one side of the seam, the runs stay as they are. -/
theorem join_of_apart {runs after : List Run}
    (h : ∀ r ∈ runs.getLast?, ∀ q ∈ after.head?, r.isField = true ∨ q.isField = true) :
    join runs after = runs ++ after := by
  fun_induction join runs after with
  | case1 => rfl
  | case2 gap value after =>
      apply prepend_of_field
      intro q hq
      exact (h _ rfl q hq).resolve_left Bool.false_ne_true
  | case3 r runs after _ ih =>
      rw [List.cons_append, ih]
      intro x hx
      apply h
      rwa [List.getLast?_cons_of_ne_nil (List.ne_nil_of_mem (List.mem_of_getLast? hx))]

theorem join_body (before : List Run) (gap value inner rest : Text) (after : List Run) :
    join (before ++ [⟨gap, .body, value⟩]) (⟨inner, .body, rest⟩ :: after) =
      before ++ ⟨gap, .body, value ++ inner ++ rest⟩ :: after := by
  induction before with
  | nil => rfl
  | cons r before ih =>
      obtain ⟨q, more, hmore⟩ := List.exists_cons_of_ne_nil
        (List.append_ne_nil_of_right_ne_nil before
          (List.cons_ne_nil (⟨gap, .body, value⟩ : Run) []))
      rw [List.cons_append, hmore, join_cons_cons, ← hmore, ih, List.cons_append]

end Run

/-- The runs of two layouts in a row. Of the first one no empty search text is left. -/
theorem Layout.runs_append (a : Layout) {b : Layout} (h : b.pieces ≠ []) :
    (a.append b).runs = Run.join (Run.ofPieces a.pieces) (Run.widen a.trailing b.runs) := by
  obtain ⟨pieces, trailing⟩ := b
  obtain ⟨p, pieces, rfl⟩ := List.exists_cons_of_ne_nil h
  have hne : Run.ofPieces (p :: pieces) ≠ [] := mt Run.ofPieces_eq_nil_iff.mp h
  have hwide := Run.widen_ne_nil a.trailing hne
  rw [Layout.runs_eq, Layout.runs_eq, Layout.append, Run.ofPieces_append, Run.ofPieces_widen,
    Run.widen_append _ hne, Run.join_append _ hwide, Run.prompt, Run.any_getLast?_join _ hwide,
    Run.any_getLast?_widen, ← Run.prompt]

/-- The runs of two texts with blanks between them. -/
theorem runs_layout_append {s gap t : Text} (hs : (layout s).Closed) (hg : IsGap gap)
    (hne : gap ≠ []) (ht : (layout t).pieces ≠ []) :
    (layout (s ++ gap ++ t)).runs = Run.join (Run.ofPieces (layout s).pieces)
      (Run.widen ((layout s).trailing ++ gap) (layout t).runs) := by
  have hb : Boundary true (gap ++ t) := by
    obtain ⟨c, gap, rfl⟩ := List.exists_cons_of_ne_nil hne
    exact boundary_blank (hg c List.mem_cons_self) _
  have hpieces : (Layout.append ⟨[], gap⟩ (layout t)).pieces ≠ [] := by
    obtain ⟨p, pieces, hp⟩ := List.exists_cons_of_ne_nil ht
    simp [Layout.append, hp]
  rw [List.append_assoc, layout_append hs hb, hg.layout_append, Layout.runs_append _ hpieces,
    Layout.runs_append _ ht, Run.ofPieces, Run.join_nil, Run.widen_widen]

/-! ## Clauses in a row -/

/-- The same clause behind `n` more bytes. -/
def Clause.shift (n : Nat) (c : Clause) : Clause := { c with start := n + c.start }

theorem place_add (n offset : Nat) (runs : List Run) :
    place (n + offset) runs = (place offset runs).map (Clause.shift n) := by
  induction runs generalizing offset with
  | nil => rfl
  | cons r runs ih =>
      simp only [place, List.map_cons, Clause.shift, Nat.add_assoc, ih]

theorem place_widen (offset : Nat) (blanks : Text) (runs : List Run) :
    place offset (Run.widen blanks runs) = place (offset + byteLength blanks) runs := by
  cases runs with
  | nil => rfl
  | cons r runs =>
      simp only [Run.widen, place, byteLength_append, Nat.add_assoc]
      rfl

theorem Clause.key_of_isBody {c : Clause} (h : c.isBody = true) : c.key = .body := by
  obtain ⟨key, value, start⟩ := c
  cases key with
  | body => rfl
  | field name => cases h

/-- The clauses of a query without the empty search text at its end. -/
def dropPrompt (cs : List Clause) : List Clause :=
  if cs.getLast?.any (·.content = (.body, [])) then cs.dropLast else cs

theorem dropPrompt_parse (s : Text) :
    dropPrompt (parse s) = place 0 (Run.ofPieces (layout s).pieces) := by
  have hfull : ∀ c ∈ place 0 (Run.ofPieces (layout s).pieces), c.content ≠ (.body, []) :=
    fun c hc => content_ne_of_mem_place (laidRuns_layout s).1 hc
  rw [parse_eq_append]
  split
  · rw [dropPrompt, List.getLast?_concat, if_pos (by rfl), List.dropLast_concat]
  · rw [List.append_nil, dropPrompt, if_neg]
    intro hany
    obtain ⟨c, hc, hcontent⟩ := (Option.any_eq_true _ _).mp hany
    exact hfull c (List.mem_of_getLast? hc) (of_decide_eq_true hcontent)

section

variable {runs more : List Run} {blanks : Text} {offset n : Nat}

/-- Where a field stands on one side of the seam, the clauses stay as they are. -/
theorem place_join_of_apart (hn : offset + byteLength (Run.allText runs) + byteLength blanks = n)
    (h : ∀ a ∈ (place offset runs).getLast?, ∀ b ∈ (place n more).head?,
      ¬ (a.isBody = true ∧ b.isBody = true)) :
    place offset (Run.join runs (Run.widen blanks more)) = place offset runs ++ place n more := by
  rw [Run.join_of_apart, place_append, place_widen, hn]
  intro r hr q hq
  have hlast := congrArg List.getLast? (map_isBody_place offset runs)
  rw [List.getLast?_map, List.getLast?_map, Option.mem_def.mp hr] at hlast
  obtain ⟨a, ha, hbody⟩ := Option.map_eq_some_iff.mp hlast
  cases more with
  | nil => cases hq
  | cons next more =>
      obtain rfl := Option.some.inj hq
      have hnot := h a ha _ rfl
      rw [hbody, Clause.isBody_eq_not_isField (blanks ++ next.gap)] at hnot
      simpa [or_iff_not_imp_left] using hnot

/-- Free text on both sides of the seam is one clause, from the start of the one to the end of the
other. -/
theorem place_join_body (hn : offset + byteLength (Run.allText runs) + byteLength blanks = n)
    {before after : List Clause} {a b : Clause} (hruns : place offset runs = before ++ [a])
    (hmore : place n more = b :: after) (ha : a.isBody = true) (hb : b.isBody = true) :
    ∃ value, place offset (Run.join runs (Run.widen blanks more)) =
        before ++ .body value a.start :: after ∧
      a.start + byteLength value = b.spot.stop := by
  rcases List.eq_nil_or_concat' runs with rfl | ⟨lead, ⟨gap, key, value⟩, rfl⟩
  · simp [place] at hruns
  rw [place_append] at hruns
  obtain ⟨rfl, hlast⟩ := List.append_inj' hruns rfl
  obtain ⟨rfl, -⟩ := List.cons.inj hlast
  cases more with
  | nil => cases hmore
  | cons next more =>
      obtain ⟨inner, nextKey, rest⟩ := next
      obtain ⟨rfl, rfl⟩ := List.cons.inj hmore
      obtain rfl : key = .body := Clause.key_of_isBody ha
      obtain rfl : nextKey = .body := Clause.key_of_isBody hb
      have hlen : byteLength (Run.allText (lead ++ [⟨gap, .body, value⟩])) =
          byteLength (Run.allText lead) + byteLength gap + byteLength value := by
        simp [Run.allText, Run.text_body, Nat.add_assoc]
      rw [hlen] at hn
      have hstop : offset + byteLength (Run.allText lead) + byteLength gap +
          byteLength (value ++ (blanks ++ inner) ++ rest) =
            n + byteLength inner + byteLength rest := by
        simp only [byteLength_append]
        omega
      refine ⟨value ++ (blanks ++ inner) ++ rest, ?_, hstop⟩
      rw [Run.widen, Run.join_body, place_append, place, Run.text_body, hstop]
      rfl

end

/-! ## Queries in a row -/

/-- Two queries in a row, with blanks between them and no quote left open in the first, are read as
they are read alone, the second one behind the first. Where free text ends the one and begins the
other, both are one clause with all that stands between them. -/
theorem parse_append {s gap t : Text}
    (hs : ∀ token ∈ (tokens s).getLast?, token.lexeme.closed = true) (hg : IsGap gap)
    (hne : gap ≠ []) (ht : tokens t ≠ []) :
    let first := dropPrompt (parse s)
    let second := (parse t).map (Clause.shift (byteLength (s ++ gap)))
    ((∀ a ∈ first.getLast?, ∀ b ∈ second.head?, ¬ (a.isBody = true ∧ b.isBody = true)) →
        parse (s ++ gap ++ t) = first ++ second) ∧
      ∀ before a b after, first = before ++ [a] → second = b :: after →
        a.isBody = true → b.isBody = true →
          ∃ value, (s ++ gap ++ t).slice? a.start b.spot.stop = some value ∧
            parse (s ++ gap ++ t) = before ++ .body value a.start :: after := by
  intro first second
  have hfirst : first = place 0 (Run.ofPieces (layout s).pieces) := dropPrompt_parse s
  have hsecond : second = place (byteLength (s ++ gap)) (layout t).runs :=
    (place_add _ 0 _).symm
  have hpieces : (layout t).pieces ≠ [] := by
    intro hnil
    rw [tokens, hnil] at ht
    exact ht rfl
  have hparse : parse (s ++ gap ++ t) = _ :=
    congrArg (place 0) (runs_layout_append (layout_closed_iff.mpr hs) hg hne hpieces)
  have hn : 0 + byteLength (Run.allText (Run.ofPieces (layout s).pieces)) +
      byteLength ((layout s).trailing ++ gap) = byteLength (s ++ gap) := by
    have htext := congrArg byteLength (laidRuns_layout s).2
    simp only [byteLength_append] at htext ⊢
    omega
  rw [hfirst, hsecond, hparse]
  constructor
  · exact place_join_of_apart hn
  · intro before a b after hbefore hafter ha hb
    obtain ⟨value, hjoin, hstop⟩ := place_join_body hn hbefore hafter ha hb
    refine ⟨value, ?_, hjoin⟩
    have hmem : Clause.spot (.body value a.start) ∈ (parse (s ++ gap ++ t)).map Clause.spot := by
      rw [hparse, hjoin]
      exact List.mem_map_of_mem (List.mem_append_right _ List.mem_cons_self)
    rw [← hstop]
    exact (spaced_parse _).own _ hmem

theorem parse_append_at_seams :
    let gap : Text := "\u3000"
    let t : Text := "don't x:'open "
    (∀ token ∈ (tokens "k:v ").getLast?, token.lexeme.closed = true) ∧
      (∀ token ∈ (tokens "k:v a ").getLast?, token.lexeme.closed = true) ∧ IsGap gap ∧
      gap ≠ [] ∧ tokens t ≠ [] ∧
      parse ("k:v " ++ gap ++ t) =
        [.field "k" "v" 0, .body "don't" 7, .field "x" "'open " 13] ∧
      parse ("k:v a " ++ gap ++ t) =
        [.field "k" "v" 0, .body "a \u3000don't" 4, .field "x" "'open " 15] := by
  intro gap t
  have hs : ∀ token ∈ (tokens "k:v ").getLast?, token.lexeme.closed = true := by decide +kernel
  have hs' : ∀ token ∈ (tokens "k:v a ").getLast?, token.lexeme.closed = true := by decide +kernel
  have hg : IsGap gap := List.all_eq_true.mp (by decide)
  have ht : tokens t ≠ [] := by decide +kernel
  refine ⟨hs, hs', hg, List.cons_ne_nil _ _, ht, ?_, ?_⟩
  · rw [(parse_append hs hg (List.cons_ne_nil _ _) ht).1 (by decide +kernel)]
    decide +kernel
  · obtain ⟨value, hslice, hparse⟩ := (parse_append hs' hg (List.cons_ne_nil _ _) ht).2
      [.field "k" "v" 0] (.body "a" 4) (.body "don't" 9) [.field "x" "'open " 15]
      (by decide +kernel) (by decide +kernel) rfl rfl
    have hvalue : Text.slice? ("k:v a " ++ gap ++ t) 4 14 = some "a \u3000don't" := by
      decide +kernel
    obtain rfl : "a \u3000don't" = value := Option.some.inj (hvalue.symm.trans hslice)
    exact hparse

end LogFilter
