import LogFilter.Proofs.Query.Offsets

/-!
# What writing a query anew changes

The edit text of a query is the query with other blanks: none in front, one space between clauses,
and at the end one space where the empty search text follows, else none (`editText_parse_eq`). All
that stands inside a clause stays. So the query is its own edit text if its blanks are these.
-/

namespace LogFilter

/-- Clauses in a row, each behind its gap. -/
def gapped (items : List (Text × Clause)) : Text := items.flatMap fun p => p.1 ++ p.2.text

/-- The same clauses, each behind one space. -/
def respace (items : List (Text × Clause)) : List (Text × Clause) :=
  items.map fun p => ([' '], p.2)

@[simp] theorem gapped_nil : gapped [] = [] := rfl

@[simp] theorem gapped_cons (gap : Text) (c : Clause) (items : List (Text × Clause)) :
    gapped ((gap, c) :: items) = gap ++ (c.text ++ gapped items) := by
  simp [gapped]

@[simp] theorem respace_nil : respace [] = [] := rfl

@[simp] theorem respace_cons (gap : Text) (c : Clause) (items : List (Text × Clause)) :
    respace ((gap, c) :: items) = ([' '], c) :: respace items := rfl

/-! ## Comparing the gaps -/

section

variable {tail trailing : Text}

/-- A space is as short as a gap can be. -/
theorem length_respace_le {items : List (Text × Clause)} (hitems : ∀ p ∈ items, p.1 ≠ [])
    (htail : tail.length ≤ trailing.length) :
    (gapped (respace items) ++ tail).length ≤ (gapped items ++ trailing).length := by
  induction items with
  | nil => simpa using htail
  | cons p items ih =>
      obtain ⟨gap, c⟩ := p
      have hgap : 0 < gap.length := List.length_pos_iff.mpr (hitems _ List.mem_cons_self)
      have hrest := ih fun q hq => hitems q (List.mem_cons_of_mem _ hq)
      simp only [respace_cons, gapped_cons, List.length_append, List.length_singleton] at hrest ⊢
      omega

/-- Clauses behind single spaces make up the same text as behind other gaps only if these are
single spaces too: a longer gap could not be made up for by what follows it. -/
theorem gapped_respace_eq_iff {items : List (Text × Clause)} (hitems : ∀ p ∈ items, p.1 ≠ [])
    (htail : tail.length ≤ trailing.length) :
    gapped (respace items) ++ tail = gapped items ++ trailing ↔
      (∀ p ∈ items, p.1 = [' ']) ∧ tail = trailing := by
  induction items with
  | nil => simp
  | cons p items ih =>
      obtain ⟨gap, c⟩ := p
      have hgap : 0 < gap.length := List.length_pos_iff.mpr (hitems _ List.mem_cons_self)
      have hrest : ∀ p ∈ items, p.1 ≠ [] := fun q hq => hitems q (List.mem_cons_of_mem _ hq)
      have hle := length_respace_le hrest htail
      rw [respace_cons, gapped_cons, gapped_cons, List.forall_mem_cons, and_assoc, ← ih hrest]
      simp only [List.append_assoc]
      constructor
      · intro h
        have hlen := congrArg List.length h
        simp only [List.length_append, List.length_singleton] at hle hlen
        obtain ⟨hspace, hsame⟩ := List.append_inj h (by simp only [List.length_singleton]; omega)
        exact ⟨hspace.symm, List.append_cancel_left hsame⟩
      · rintro ⟨rfl, h⟩
        rw [h]

/-- Blanks in front of a text cannot be made up for either. -/
theorem respaced_eq_iff {s first : Text} {items : List (Text × Clause)}
    (htext : s.dropWhile isBlank = first ++ (gapped items ++ trailing))
    (hitems : ∀ p ∈ items, p.1 ≠ []) (htail : tail.length ≤ trailing.length) :
    first ++ (gapped (respace items) ++ tail) = s ↔
      s.dropWhile isBlank = s ∧ (∀ p ∈ items, p.1 = [' ']) ∧ tail = trailing := by
  have hsplit := List.takeWhile_append_dropWhile (p := isBlank) (l := s)
  have hle := length_respace_le hitems htail
  rw [← gapped_respace_eq_iff hitems htail]
  constructor
  · intro h
    have hlead : s.takeWhile isBlank = [] := by
      have hlen := congrArg List.length hsplit
      have hlen' := congrArg List.length h
      rw [htext] at hlen
      simp only [List.length_append] at hlen hlen' hle
      exact List.length_eq_zero_iff.mp (by omega)
    have hdrop : s.dropWhile isBlank = s := by rwa [hlead, List.nil_append] at hsplit
    have hsame : first ++ (gapped (respace items) ++ tail) =
        first ++ (gapped items ++ trailing) := by rw [h, ← htext, hdrop]
    exact ⟨hdrop, List.append_cancel_left hsame⟩
  · rintro ⟨hdrop, hgaps⟩
    rw [hgaps, ← htext, hdrop]

end

/-! ## The gaps of a query -/

/-- Runs behind a boundary are clauses behind gaps that are not empty. -/
theorem LaidRuns.exists_gapped {runs : List Run} {s : Text} (h : LaidRuns runs s) {closed : Bool}
    (hb : Boundary closed (Run.allText runs ++ s)) (offset : Nat) :
    ∃ items : List (Text × Clause), (∀ p ∈ items, IsGap p.1 ∧ p.1 ≠ []) ∧
      items.map Prod.snd = place offset runs ∧ gapped items = Run.allText runs := by
  induction h generalizing offset closed with
  | trailing => exact ⟨[], by simp, rfl, rfl⟩
  | @run r _ runs s hg hr hb' hf hruns ih =>
      have hne : r.gap ≠ [] := (LaidRuns.run hg hr hb' hf hruns).gap_ne_nil hb r rfl
      obtain ⟨items, hitems, hplace, htext⟩ :=
        ih hb' (offset + byteLength r.gap + byteLength r.text)
      refine ⟨(r.gap, ⟨r.key, r.value, offset + byteLength r.gap⟩) :: items, ?_, ?_, ?_⟩
      · rw [List.forall_mem_cons]
        exact ⟨⟨hg, hne⟩, hitems⟩
      · rw [List.map_cons, hplace, place]
      · rw [gapped_cons, htext, Run.allText_cons]
        rfl

theorem editText_cons_eq_gapped (c : Clause) (items : List (Text × Clause)) :
    editText (c :: items.map Prod.snd) = c.text ++ gapped (respace items) := by
  induction items generalizing c with
  | nil => simp [editText]
  | cons p items ih =>
      obtain ⟨gap, d⟩ := p
      rw [List.map_cons, editText_cons_cons, ih, respace_cons, gapped_cons]
      rfl

theorem exists_gapped_of_tokens_ne_nil {s : Text} (h : tokens s ≠ []) :
    ∃ first items, (∀ p ∈ items, IsGap p.1 ∧ p.1 ≠ []) ∧
      s.dropWhile isBlank = first.text ++ (gapped items ++ (layout s).trailing) ∧
      place 0 (Run.ofPieces (layout s).pieces) = first :: items.map Prod.snd := by
  obtain ⟨hruns, htext⟩ := laidRuns_layout s
  have hne : Run.ofPieces (layout s).pieces ≠ [] := by
    intro hnil
    rw [tokens, Run.ofPieces_eq_nil_iff.mp hnil] at h
    exact h rfl
  generalize Run.ofPieces (layout s).pieces = runs at hruns htext hne ⊢
  generalize (layout s).trailing = trailing at hruns htext ⊢
  cases hruns with
  | trailing => exact (hne rfl).elim
  | @run r closed runs _ hg hr hb hf hrest =>
      obtain ⟨items, hitems, hplace, hgapped⟩ := hrest.exists_gapped hb
        (0 + byteLength r.gap + byteLength r.text)
      refine ⟨⟨r.key, r.value, 0 + byteLength r.gap⟩, items, hitems, ?_, by rw [hplace, place]⟩
      obtain ⟨c, t, hfirst, hc⟩ := hr.exists_cons
      rw [← htext, Run.allText_cons, hgapped, List.append_assoc, hg.dropWhile_append,
        List.append_assoc, show Clause.text ⟨r.key, r.value, 0 + byteLength r.gap⟩ = r.text from rfl,
        hfirst]
      simp [hc]

/-! ## The edit text -/

/-- The space that stands for the blanks at the end of a query. -/
def promptSpace (s trailing : Text) : Text :=
  if trailing ≠ [] ∧ endsKeyed s = true then [' '] else []

theorem length_promptSpace_le (s trailing : Text) :
    (promptSpace s trailing).length ≤ trailing.length := by
  unfold promptSpace
  split
  · next hp => exact List.length_pos_iff.mpr hp.1
  · exact Nat.zero_le _

theorem promptSpace_eq_iff (s trailing : Text) :
    promptSpace s trailing = trailing ↔
      trailing = [] ∨ trailing = [' '] ∧ endsKeyed s = true := by
  unfold promptSpace
  split
  · next hp =>
    constructor
    · intro h
      exact .inr ⟨h.symm, hp.2⟩
    · rintro (h | ⟨h, _⟩)
      · exact (hp.1 h).elim
      · exact h.symm
  · next hp =>
    constructor
    · intro h
      exact .inl h.symm
    · rintro (h | ⟨h, hends⟩)
      · exact h.symm
      · exact (hp ⟨by rw [h]; exact List.cons_ne_nil _ _, hends⟩).elim

theorem editText_append_prompt (first : Clause) (items : List (Text × Clause)) (s trailing : Text) :
    editText (first :: items.map Prod.snd ++
        if trailing ≠ [] ∧ endsKeyed s = true then [.body [] (byteLength s)] else []) =
      first.text ++ (gapped (respace items) ++ promptSpace s trailing) := by
  unfold promptSpace
  split
  · have h := editText_cons_eq_gapped first (items ++ [(trailing, .body [] (byteLength s))])
    rw [List.map_append] at h
    rw [List.cons_append]
    refine h.trans ?_
    simp [respace, gapped, Clause.body, Clause.text]
  · rw [List.append_nil, editText_cons_eq_gapped, List.append_nil]

/-- The edit text of a query with at least one token is the query without the blanks in front of
it, with one space for each gap between clauses, and with one space for the blanks behind the last
token if that token has a key, and none if it has not. It is the query itself exactly if that
changes nothing. -/
theorem editText_parse_eq {s : Text} (h : tokens s ≠ []) :
    ∃ (first : Clause) (items : List (Text × Clause)) (trailing : Text),
      (∀ p ∈ items, IsGap p.1 ∧ p.1 ≠ []) ∧ IsGap trailing ∧
      s.dropWhile isBlank = first.text ++ (gapped items ++ trailing) ∧
      (∃ t ∈ (tokens s).getLast?, s.slice? t.stop (byteLength s) = some trailing) ∧
      (parse s = first :: items.map Prod.snd ++
        if trailing ≠ [] ∧ endsKeyed s = true then [.body [] (byteLength s)] else []) ∧
      (editText (parse s) = first.text ++ (gapped (respace items) ++
        if trailing ≠ [] ∧ endsKeyed s = true then [' '] else [])) ∧
      (editText (parse s) = s ↔
        s.dropWhile isBlank = s ∧ (∀ p ∈ items, p.1 = [' ']) ∧
          (trailing = [] ∨ trailing = [' '] ∧ endsKeyed s = true)) := by
  obtain ⟨first, items, hitems, htext, hplace⟩ := exists_gapped_of_tokens_ne_nil h
  obtain ⟨t, ht⟩ := Option.ne_none_iff_exists'.mp (mt List.getLast?_eq_none_iff.mp h)
  have hslice := slice?_trailing ht
  have hparse := parse_eq_append s
  have htrail := (laidRuns_layout s).1.isGap_trailing
  generalize (layout s).trailing = trailing at htext hslice hparse htrail
  rw [hplace] at hparse
  have hedit := editText_append_prompt first items s trailing
  rw [← hparse] at hedit
  refine ⟨first, items, trailing, hitems, htrail, htext, ⟨t, ht, hslice⟩, hparse, hedit, ?_⟩
  rw [hedit, ← promptSpace_eq_iff]
  exact respaced_eq_iff htext (fun p hp => (hitems p hp).2) (length_promptSpace_le s trailing)

theorem editText_parse_eq_wide_gaps :
    let s : Text := "\u3000a  b\tk:'x  y' \u00a0z: \u2003"
    tokens s ≠ [] ∧ editText (parse s) = "a  b k:'x  y' z: " ∧
      ∃ (first : Clause) (items : List (Text × Clause)),
        s.dropWhile isBlank = first.text ++ (gapped items ++ " \u2003") ∧
          editText (parse s) = first.text ++ (gapped (respace items) ++ " ") := by
  intro s
  have hs : tokens s ≠ [] := by decide +kernel
  refine ⟨hs, by decide +kernel, ?_⟩
  obtain ⟨first, items, trailing, _, _, htext, ⟨t, ht, hslice⟩, _, hedit, _⟩ :=
    editText_parse_eq hs
  have hends : endsKeyed s = true := by decide +kernel
  have hlast : ∀ t ∈ (tokens s).getLast?,
      s.slice? t.stop (byteLength s) = some " \u2003" := by decide +kernel
  obtain rfl : trailing = " \u2003" := Option.some.inj (hslice.symm.trans (hlast t ht))
  refine ⟨first, items, htext, ?_⟩
  rw [hedit, if_pos ⟨by decide, hends⟩]
  rfl

end LogFilter
