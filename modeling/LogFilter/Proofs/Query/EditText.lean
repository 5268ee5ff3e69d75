import LogFilter.Proofs.Query.Runs
import LogFilter.Query.Render

/-!
# Reading back what was written

Clauses that keep to the grammar are read back from their edit text, with the offsets at which they
stand there (`parse_editText`). The clauses of every query keep to the grammar, so that writing a
query anew changes nothing but blanks between clauses, and changes nothing a second time.
-/

namespace LogFilter

/-- What an edit keeps of a clause: all but the offset. -/
def Clause.content (c : Clause) : Key × Text := (c.key, c.value)

/-- Clauses that can be read back: every one is spelled as in the grammar, only the last leaves a
quote open, no free text follows on free text, and after a last field there may be the empty search
text. -/
inductive Readable : List Clause → Prop where
  | nil : Readable []
  | cons {c closed cs} (hc : Spelled c.key c.value closed) (hlast : closed = true ∨ cs = [])
      (hf : c.isBody = false ∨ ∀ next ∈ cs.head?, next.isBody = false) :
      Readable cs → Readable (c :: cs)
  | prompt {c p} (hc : Spelled c.key c.value true) (hf : c.isBody = false)
      (hp : p.content = (.body, [])) : Readable [c, p]

theorem not_isKey_bodyName : ¬ IsKey Key.bodyName := by
  intro h
  have hat : isKeyChar '@' = false := by decide +kernel
  exact absurd (h.2 '@' (by decide)) (by simp [hat])

theorem Readable.isKey {cs : List Clause} (h : Readable cs) :
    ∀ c ∈ cs, ∀ name, c.key = .field name → IsKey name := by
  induction h with
  | nil => simp
  | @cons c closed cs hc _ _ _ ih =>
      rw [List.forall_mem_cons]
      refine ⟨?_, ih⟩
      intro name hname
      rw [hname] at hc
      exact hc.isKey
  | @prompt c p hc _ hp =>
      rw [List.forall_mem_cons, List.forall_mem_singleton]
      constructor
      · intro name hname
        rw [hname] at hc
        exact hc.isKey
      · intro name hname
        rw [Clause.content, hname] at hp
        cases hp

/-! ## Clauses as runs -/

/-- The run of a clause behind the given blanks. -/
def Clause.run (gap : Text) (c : Clause) : Run := ⟨gap, c.key, c.value⟩

@[simp] theorem Clause.gap_run (gap : Text) (c : Clause) : (c.run gap).gap = gap := rfl

@[simp] theorem Clause.text_run (gap : Text) (c : Clause) : (c.run gap).text = c.text := rfl

theorem Clause.isField_run (gap : Text) (c : Clause) : (c.run gap).isField = !c.isBody := by
  obtain ⟨key, value, start⟩ := c
  cases key <;> rfl

/-- The runs of clauses with one space between them. -/
def spaced (gap : Text) : List Clause → List Run
  | [] => []
  | c :: cs => c.run gap :: spaced [' '] cs

theorem head?_spaced (gap : Text) (cs : List Clause) :
    (spaced gap cs).head? = cs.head?.map (Clause.run gap) := by
  cases cs <;> rfl

theorem editText_cons_cons (c d : Clause) (cs : List Clause) :
    editText (c :: d :: cs) = c.text ++ ' ' :: editText (d :: cs) := by
  simp [editText, Text.join_cons_cons]

theorem allText_spaced (gap : Text) (c : Clause) (cs : List Clause) :
    Run.allText (spaced gap (c :: cs)) = gap ++ editText (c :: cs) := by
  induction cs generalizing gap c with
  | nil => simp [spaced, editText]
  | cons d cs ih =>
      rw [spaced, Run.allText_cons, ih, editText_cons_cons, Clause.text_run, Clause.gap_run]
      rfl

theorem allText_spaced_nil (cs : List Clause) : Run.allText (spaced [] cs) = editText cs := by
  cases cs with
  | nil => rfl
  | cons c cs => rw [allText_spaced, List.nil_append]

/-- The same clauses in a row, one byte apart, the first of them at `offset`. -/
def rebase (offset : Nat) : List Clause → List Clause
  | [] => []
  | c :: cs => { c with start := offset } :: rebase (offset + byteLength c.text + 1) cs

theorem place_spaced (gap : Text) (offset : Nat) (cs : List Clause) :
    place offset (spaced gap cs) = rebase (offset + byteLength gap) cs := by
  induction cs generalizing gap offset with
  | nil => rfl
  | cons c cs ih =>
      rw [spaced, place, ih, rebase]
      rfl

theorem content_rebase (offset : Nat) (cs : List Clause) :
    (rebase offset cs).map Clause.content = cs.map Clause.content := by
  induction cs generalizing offset with
  | nil => rfl
  | cons c cs ih => rw [rebase, List.map_cons, List.map_cons, ih, Clause.content, Clause.content]

/-- The edit text has nothing of the offsets in it. -/
theorem editText_congr {cs ds : List Clause} (h : cs.map Clause.content = ds.map Clause.content) :
    editText cs = editText ds := by
  have htext (c : Clause) : c.text = Run.text ⟨[], c.content.1, c.content.2⟩ := rfl
  have hmap (es : List Clause) : es.map Clause.text =
      (es.map Clause.content).map fun (key, value) => Run.text ⟨[], key, value⟩ := by
    rw [List.map_map]
    exact List.map_congr_left fun c _ => htext c
  rw [editText, editText, hmap cs, hmap ds, h]

/-! ## Reading back -/

theorem boundary_spaced (cs : List Clause) : Boundary true (Run.allText (spaced [' '] cs)) := by
  cases cs with
  | nil => exact boundary_nil true
  | cons c cs =>
      rw [allText_spaced]
      exact boundary_blank isBlank_space _

theorem isField_head?_of_spaced {runs prompt : List Run} {gap : Text} {cs : List Clause}
    (h : runs ++ prompt = spaced gap cs) (hf : ∀ next ∈ cs.head?, next.isBody = false) :
    ∀ next ∈ runs.head?, next.isField = true := by
  intro next hn
  have hhead : (spaced gap cs).head? = some next := by
    rw [← h, List.head?_append, hn, Option.some_or]
  rw [head?_spaced] at hhead
  obtain ⟨c, hc, rfl⟩ := Option.map_eq_some_iff.mp hhead
  simp [Clause.isField_run, hf c hc]

/-- Clauses that can be read back, written with single spaces, are runs of the grammar. -/
theorem Readable.exists_laidRuns {cs : List Clause} (h : Readable cs) {gap : Text}
    (hg : IsGap gap) :
    ∃ runs s, LaidRuns runs s ∧ runs ++ Run.prompt runs s = spaced gap cs ∧
      Run.allText runs ++ s = Run.allText (spaced gap cs) := by
  induction h generalizing gap with
  | nil => exact ⟨[], [], .trailing isGap_nil, rfl, rfl⟩
  | @prompt c p hc hf hp =>
      obtain ⟨key, value, start⟩ := p
      obtain ⟨rfl, rfl⟩ := Prod.mk.inj hp
      have hfield : (c.run gap).isField = true := by simp [Clause.isField_run, hf]
      have hb : Boundary true (Run.allText [] ++ [' ']) := boundary_blank isBlank_space []
      refine ⟨[c.run gap], [' '], ?_, ?_, ?_⟩
      · exact .run hg hc hb (.inl hfield) (.trailing isGap_space)
      · rw [Run.prompt_singleton, if_pos ⟨List.cons_ne_nil _ _, hfield⟩]
        rfl
      · simp [spaced, Clause.run, Run.text_body]
  | @cons c closed cs hc hlast hf _ ih =>
      obtain ⟨runs, s, hruns, hprompt, htext⟩ := ih isGap_space
      have hb : Boundary closed (Run.allText runs ++ s) := by
        rw [htext]
        rcases hlast with rfl | rfl
        · exact boundary_spaced cs
        · exact boundary_nil closed
      have hnext : (c.run gap).isField = true ∨ ∀ next ∈ runs.head?, next.isField = true := by
        rcases hf with hf | hf
        · exact .inl (by simp [Clause.isField_run, hf])
        · exact .inr (isField_head?_of_spaced hprompt hf)
      refine ⟨c.run gap :: runs, s, .run hg hc hb hnext hruns, ?_, ?_⟩
      · cases runs with
        | nil =>
            -- nothing follows, so that there is no blank for a prompt either
            have hcs : cs = [] := by
              cases cs with
              | nil => rfl
              | cons d cs => simp [Run.prompt, spaced] at hprompt
            subst hcs
            obtain rfl : s = [] := by simpa [spaced] using htext
            rw [Run.prompt_nil, List.append_nil]
            rfl
        | cons r runs =>
            rw [Run.prompt_cons _ (List.cons_ne_nil r runs), List.cons_append, hprompt, spaced]
      · rw [Run.allText_cons, List.append_assoc, List.append_assoc, htext, spaced,
          Run.allText_cons]

/-- Clauses of the grammar are read back where they were written. -/
theorem parse_editText {cs : List Clause} (h : Readable cs) :
    parse (editText cs) = rebase 0 cs := by
  obtain ⟨runs, s, hruns, hprompt, htext⟩ := h.exists_laidRuns isGap_nil
  rw [allText_spaced_nil] at htext
  rw [parse, ← htext, hruns.layout_runs, hprompt, place_spaced, byteLength_nil]

/-! ## The clauses of a query -/

theorem Clause.isBody_eq_not_isField (gap value : Text) (key : Key) (start : Nat) :
    Clause.isBody ⟨key, value, start⟩ = !Run.isField ⟨gap, key, value⟩ := by
  cases key <;> rfl

theorem map_isBody_place (offset : Nat) (runs : List Run) :
    (place offset runs).map Clause.isBody = runs.map fun r => !r.isField := by
  induction runs generalizing offset with
  | nil => rfl
  | cons r runs ih =>
      rw [place, List.map_cons, List.map_cons, ih, Clause.isBody_eq_not_isField r.gap]

theorem isBody_head?_place {runs : List Run} (h : ∀ next ∈ runs.head?, next.isField = true)
    (offset : Nat) : ∀ c ∈ (place offset runs).head?, c.isBody = false := by
  cases runs with
  | nil => simp [place]
  | cons r runs =>
      intro c hc
      obtain rfl : _ = c := Option.some.inj hc
      rw [Clause.isBody_eq_not_isField r.gap, h r rfl]
      rfl

theorem LaidRuns.readable {runs : List Run} {s : Text} (h : LaidRuns runs s) (offset : Nat) :
    Readable (place offset (runs ++ Run.prompt runs s)) := by
  induction h generalizing offset with
  | trailing =>
      rw [Run.prompt_of_nil]
      exact .nil
  | @run r closed runs s hg hr hb hf hruns ih =>
      have hbody (start : Nat) : Clause.isBody ⟨r.key, r.value, start⟩ = !r.isField :=
        Clause.isBody_eq_not_isField r.gap r.value r.key start
      cases runs with
      | nil =>
          rw [Run.prompt_singleton]
          split
          · next hp =>
            obtain rfl : closed = true := hb.closed_of_ne_nil hp.1
            exact .prompt hr (by rw [hbody, hp.2]; rfl) rfl
          · exact .cons hr (.inr rfl) (.inr (by simp [place])) .nil
      | cons next runs =>
          have hclosed : closed = true := by
            apply hb.closed_of_ne_nil
            intro hnil
            cases (hruns.eq_nil hnil).1
          rw [Run.prompt_cons r (List.cons_ne_nil next runs), List.cons_append, place]
          refine .cons hr (.inl hclosed) ?_ (ih _)
          rcases hf with hf | hf
          · exact .inl (by rw [hbody, hf]; rfl)
          · exact .inr (isBody_head?_place hf _)

/-- The clauses of every query can be read back. -/
theorem readable_parse (s : Text) : Readable (parse s) := by
  rw [parse, Layout.runs_eq]
  exact (laidRuns_layout s).1.readable 0

/-- A query written anew is read as the same keys and values, clause by clause, and is written the
same from then on. -/
theorem parse_editText_parse (s : Text) :
    (parse (editText (parse s))).map Clause.content = (parse s).map Clause.content ∧
      editText (parse (editText (parse s))) = editText (parse s) := by
  have h : (parse (editText (parse s))).map Clause.content = (parse s).map Clause.content := by
    rw [parse_editText (readable_parse s), content_rebase]
  exact ⟨h, editText_congr h⟩

end LogFilter
