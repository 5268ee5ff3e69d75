import LogFilter.Proofs.Query.EditText
import LogFilter.Proofs.Query.Insertion
import LogFilter.Query.Edit
import Mathlib.Data.List.Forall2

/-!
# Replacing values

Clauses that can be read back still can be after some of their values were replaced by quoted
scalars. A scalar is a closed lexeme, which is a value of a field and of free text alike. So every
query can be edited in this way and written anew without another clause being affected
(`content_parse_editText_fill`).
-/

namespace LogFilter

/-! ## Clauses with other values -/

/-- Whether a clause is the same as before, or has a closed lexeme for its value now. -/
def Clause.Replaced (c d : Clause) : Prop :=
  d.key = c.key ∧ (d = c ∨ Lexeme.Valid ⟨none, d.value, true⟩)

namespace Clause.Replaced

variable {c d : Clause}

theorem refl (c : Clause) : c.Replaced c := ⟨rfl, .inl rfl⟩

theorem isBody_eq (h : c.Replaced d) : d.isBody = c.isBody := by
  rw [Clause.isBody, Clause.isBody, h.1]

/-- Replacing a value does not open a quote. -/
theorem spelled (h : c.Replaced d) {closed : Bool} (hc : Spelled c.key c.value closed) :
    ∃ closed', Spelled d.key d.value closed' ∧ (closed = true → closed' = true) := by
  obtain ⟨hkey, rfl | hv⟩ := h
  · exact ⟨closed, hc, id⟩
  · refine ⟨true, hv.spelled ?_, fun _ => rfl⟩
    intro name hname
    rw [← hkey, hname] at hc
    exact hc.isKey

/-- A first clause that is a field stays one. -/
theorem isBody_head? {cs ds : List Clause} (h : List.Forall₂ Clause.Replaced cs ds)
    (hcs : ∀ c ∈ cs.head?, c.isBody = false) : ∀ d ∈ ds.head?, d.isBody = false := by
  cases h with
  | nil => exact hcs
  | @cons c d _ _ hd =>
      intro e he
      obtain rfl := Option.some.inj he
      rw [hd.isBody_eq]
      exact hcs c rfl

end Clause.Replaced

/-- Clauses that can be read back still can be with other closed lexemes for some of their values,
the empty search text at the end among them. -/
theorem Readable.replace {cs ds : List Clause} (h : Readable cs)
    (hr : List.Forall₂ Clause.Replaced cs ds) : Readable ds := by
  induction h generalizing ds with
  | nil =>
      cases hr
      exact .nil
  | @cons c closed cs hc hlast hf _ ih =>
      obtain ⟨d, ds, hd, hds, rfl⟩ := List.forall₂_cons_left_iff.mp hr
      obtain ⟨closed', hspelled, hclosed⟩ := hd.spelled hc
      refine .cons hspelled (hlast.imp hclosed ?_) ?_ (ih hds)
      · rintro rfl
        exact List.forall₂_nil_left_iff.mp hds
      · rw [hd.isBody_eq]
        exact hf.imp_right (Clause.Replaced.isBody_head? hds)
  | @prompt c p hc hf hp =>
      obtain ⟨d, _, hd, hrest, rfl⟩ := List.forall₂_cons_left_iff.mp hr
      obtain ⟨q, _, hq, hnil, rfl⟩ := List.forall₂_cons_left_iff.mp hrest
      obtain rfl := List.forall₂_nil_left_iff.mp hnil
      obtain ⟨closed', hspelled, hclosed⟩ := hd.spelled hc
      obtain rfl : closed' = true := hclosed rfl
      have hfield : d.isBody = false := by rw [hd.isBody_eq, hf]
      obtain ⟨hkey, rfl | hv⟩ := hq
      · exact .prompt hspelled hfield hp
      · -- the place to type has a text now, and is a clause like any other
        have hbody : p.key = .body := congrArg Prod.fst hp
        have hq : Spelled q.key q.value true := by
          apply hv.spelled
          rw [hkey, hbody]
          simp
        exact .cons hspelled (.inl rfl) (.inl hfield) (.cons hq (.inl rfl) (.inr (by simp)) .nil)

/-! ## Filling in scalars -/

/-- The clauses with the values at some indices replaced by scalars. -/
def fill (choice : Nat → Option Scalar) (cs : List Clause) : List Clause :=
  cs.mapIdx fun i c =>
    match choice i with
    | some x => { c with value := x.quoted }
    | none => c

theorem forall₂_fill (choice : Nat → Option Scalar) (cs : List Clause) :
    List.Forall₂ Clause.Replaced cs (fill choice cs) := by
  rw [List.forall₂_iff_get]
  refine ⟨by simp [fill], ?_⟩
  intro i hi hi'
  simp only [fill, List.get_eq_getElem, List.getElem_mapIdx]
  split
  · next x _ => exact ⟨rfl, .inr (valid_quoted x)⟩
  · exact .refl _

/-- Scalars that are filled in for values of a query, whichever and how many, are read back from
the edit text as these values. All the keys and all the other values are read back too, clause by
clause. -/
theorem content_parse_editText_fill (choice : Nat → Option Scalar) (s : Text) :
    (parse (editText (fill choice (parse s)))).map Clause.content =
      (fill choice (parse s)).map Clause.content := by
  rw [parse_editText ((readable_parse s).replace (forall₂_fill choice _)), content_rebase]

/-- The quote that was left open is gone with the value that it stood in, and the place to type is
taken. -/
example :
    let put (i : Nat) : Option Scalar := if i = 1 then some (.text "x \" y:") else none
    editText (fill put (parse "k:v \"open ")) = "k:v \"x \\\" y:\"" ∧
      editText (fill put (parse "k: ")) = "k: \"x \\\" y:\"" := by
  decide +kernel

/-! ## Edit by edit -/

/-- The edits that put one closed lexeme in the place of a value. -/
inductive Edit.QuotesValue : Edit → Prop where
  | setValue (index : Nat) (x : Scalar) : QuotesValue (.setValue index x.quoted)
  | quoteValue (index : Nat) : QuotesValue (.quoteValue index)

theorem forall₂_modifyValue? {f : Text → Text} (hf : ∀ s, Lexeme.Valid ⟨none, f s, true⟩)
    {index : Nat} {cs ds : List Clause} (h : modifyValue? f index cs = some ds) :
    List.Forall₂ Clause.Replaced cs ds := by
  unfold modifyValue? at h
  split at h
  · obtain rfl := Option.some.inj h
    rw [List.forall₂_iff_get]
    refine ⟨by simp, ?_⟩
    intro i hi hi'
    simp only [List.get_eq_getElem, List.getElem_modify]
    split
    · exact ⟨rfl, .inr (hf _)⟩
    · exact .refl _
  · cases h

theorem Edit.QuotesValue.readable {edit : Edit} (he : edit.QuotesValue) {cs ds : List Clause}
    (h : Readable cs) (hrun : edit.perform? cs = some ds) : Readable ds := by
  cases he with
  | setValue index x => exact h.replace (forall₂_modifyValue? (fun _ => valid_quoted x) hrun)
  | quoteValue index => exact h.replace (forall₂_modifyValue? valid_quote hrun)

theorem Readable.edits {edits : List Edit} (he : ∀ edit ∈ edits, edit.QuotesValue)
    {cs ds : List Clause} (h : Readable cs)
    (hrun : edits.foldlM (fun cs edit => edit.perform? cs) cs = some ds) : Readable ds := by
  induction edits generalizing cs with
  | nil =>
      obtain rfl := Option.some.inj hrun
      exact h
  | cons edit edits ih =>
      rw [List.foldlM_cons] at hrun
      obtain ⟨next, hnext, hrest⟩ := Option.bind_eq_some_iff.mp hrun
      have hreadable := (he edit List.mem_cons_self).readable h hnext
      exact ih (fun e hmem => he e (List.mem_cons_of_mem edit hmem)) hreadable hrest

/-- After any such edits of a query, one after the other, its clauses are read back from their edit
text. -/
theorem parse_editText_of_edits (s : Text) {edits : List Edit}
    (he : ∀ edit ∈ edits, edit.QuotesValue) {ds : List Clause}
    (hrun : edits.foldlM (fun cs edit => edit.perform? cs) (parse s) = some ds) :
    parse (editText ds) = rebase 0 ds :=
  parse_editText ((readable_parse s).edits he hrun)

end LogFilter
