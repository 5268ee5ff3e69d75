import LogFilter.Proofs.Query.Quoting

/-!
# Quoted segments in units

Between double quotes a backslash and the character after it are one unit, and every other character
is a unit by itself. A quoted token is a segment in which no unit is a lone quote or a lone
backslash, and then a word that is empty or ends with the quote (`isQuotedBy_iff_exists_segment`).
-/

namespace LogFilter

/-! ## Units -/

/-- The units of a text between double quotes, from left to right. -/
def units : Text → List Text
  | '\\' :: c :: s => ['\\', c] :: units s
  | c :: s => [c] :: units s
  | [] => []

@[simp] theorem units_nil : units [] = [] := by
  rw [units]

@[simp] theorem units_pair (c : Char) (s : Text) :
    units ('\\' :: c :: s) = ['\\', c] :: units s := by
  rw [units]

theorem units_cons {c : Char} (s : Text) (hc : c ≠ '\\') : units (c :: s) = [c] :: units s := by
  rw [units]
  intro d t hbs
  exact (hc hbs).elim

/-! ## Segments -/

/-- Whether the closing quote can stand right behind a text. Single quotes close at the next single
quote. Double quotes close at the first one that is a unit by itself, unless a backslash before it
has no partner yet. -/
def Quote.Encloses : Quote → Text → Prop
  | .single, s => '\'' ∉ s
  | .double, s => ['"'] ∉ units s ∧ ['\\'] ∉ units s

instance (q : Quote) (s : Text) : Decidable (q.Encloses s) :=
  match q with
  | .single => inferInstanceAs (Decidable ('\'' ∉ s))
  | .double => inferInstanceAs (Decidable (['"'] ∉ units s ∧ ['\\'] ∉ units s))

theorem Quote.Inner.encloses {q : Quote} {s : Text} (h : q.Inner s) : q.Encloses s := by
  induction h with
  | nil q => cases q <;> simp [Quote.Encloses]
  | @plain q c s hc hb _ ih =>
      cases q with
      | single =>
          have hne : '\'' ≠ c := hc.symm
          simpa [Quote.Encloses, hne] using ih
      | double =>
          have hne : '"' ≠ c := hc.symm
          have hbs : c ≠ '\\' := hb rfl
          simpa [Quote.Encloses, units_cons s hbs, hne, hbs.symm] using ih
  | pair c _ ih => simpa [Quote.Encloses] using ih

theorem inner_single_of_not_mem {s : Text} (h : '\'' ∉ s) : Quote.Inner .single s := by
  induction s with
  | nil => exact .nil _
  | cons c s ih =>
      obtain ⟨hc, hs⟩ := List.ne_and_not_mem_of_not_mem_cons h
      exact .plain hc.symm nofun (ih hs)

theorem inner_double_of_units {s : Text} (hq : ['"'] ∉ units s) (hb : ['\\'] ∉ units s) :
    Quote.Inner .double s := by
  fun_induction units s with
  | case1 c s ih =>
      have hq' : ['"'] ∉ units s := List.not_mem_of_not_mem_cons hq
      have hb' : ['\\'] ∉ units s := List.not_mem_of_not_mem_cons hb
      exact .pair c (ih hq' hb')
  | case2 c s _ ih =>
      -- a backslash here is the last character, so that it is a unit by itself
      obtain ⟨hunit, hq'⟩ := List.ne_and_not_mem_of_not_mem_cons hq
      obtain ⟨hunit', hb'⟩ := List.ne_and_not_mem_of_not_mem_cons hb
      have hquote : c ≠ '"' := fun heq => hunit (by rw [heq])
      have hbs : c ≠ '\\' := fun heq => hunit' (by rw [heq])
      exact .plain hquote (fun _ => hbs) (ih hq' hb')
  | case3 => exact .nil _

/-- The grammar of what a segment may hold agrees with the scan of it in units. -/
theorem Quote.inner_iff_encloses {q : Quote} {s : Text} : q.Inner s ↔ q.Encloses s := by
  refine ⟨Quote.Inner.encloses, ?_⟩
  intro h
  cases q with
  | single => exact inner_single_of_not_mem h
  | double => exact inner_double_of_units h.1 h.2

/-! ## The shape of quoted tokens -/

/-- A text is a quoted token of `q` exactly if it is a quote, a text that does not close it, the
quote again, and then a word without blanks that is empty or ends with the quote. -/
theorem isQuotedBy_iff_exists_segment (q : Quote) (s : Text) :
    isQuotedBy q s = true ↔
      ∃ inner word, s = q.char :: (inner ++ q.char :: word) ∧ q.Encloses inner ∧ IsWord word ∧
        (word = [] ∨ word.getLast? = some q.char) := by
  rw [isQuotedBy_iff]
  constructor
  · rintro ⟨inner, word, hinner, hword, hlast, hs⟩
    refine ⟨inner, word, hs, hinner.encloses, hword, ?_⟩
    cases hend : word.getLast? with
    | none => exact .inl (List.getLast?_eq_none_iff.mp hend)
    | some c => exact .inr (congrArg some (hlast c hend))
  · rintro ⟨inner, word, hs, hinner, hword, hend⟩
    refine ⟨inner, word, Quote.inner_iff_encloses.mpr hinner, hword, ?_, hs⟩
    intro c hc
    rcases hend with rfl | hend
    · cases hc
    · exact Option.some.inj (hc.symm.trans hend)

/-- The backslash takes the last quote with it, so that the text is left open. -/
example : ¬ Quote.Encloses .double "a\\" ∧ isQuotedBy .double "\"a\\\"" = false := by
  decide +kernel

end LogFilter
