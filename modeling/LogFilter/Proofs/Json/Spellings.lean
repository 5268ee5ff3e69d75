import LogFilter.Proofs.Json.Members
import LogFilter.Proofs.Json.RoundTrip

/-!
# All spellings of a clause

A clause may be spelled as an object, with its four fields in any order and with others between
them, or as a list of the four values; strings may have any escapes, and white space may stand
between any two tokens. All spellings are read as one clause. An object that lacks a field, or has
it twice, is not read at all.
-/

namespace LogFilter.Json

variable {s t u g g' rest : Text} {k v : Text} {n count : Nat} {c : Clause}
  {members : List (Text × Text)} {α : Type} {P : α → Text → Prop} {as : List α}

/-! ### Lists -/

theorem nextItem_comma_eq {start : Char} {w : Text} (hg : IsJsonGap g)
    (hs : skipBlanks s = start :: w) (hstart : start ≠ ']') :
    nextItem false (g ++ ',' :: s) = nextItem true s := by
  rw [nextItem, nextItem, skipBlanks_gap_cons hg (by decide)]
  simp [hs, hstart]

theorem nextItem_start (hg : IsJsonGap g) (ht : StartsItem t) (s : Text) :
    nextItem true (g ++ (t ++ s)) = .ok (some (t ++ s)) := by
  obtain ⟨c, w, rfl, hblank, hclose⟩ := ht
  exact nextItem_first hg hblank hclose (w ++ s)

theorem item_first (hg : IsJsonGap g) (ht : IsJsonValue t) (s : Text) :
    item 0 (g ++ (t ++ s)) = .ok (t ++ s) :=
  congrArg (· >>= _) (nextItem_start hg ht.startsItem s)

theorem item_comma (index : Nat) (hg : IsJsonGap g) (hg' : IsJsonGap g') (ht : IsJsonValue t)
    (s : Text) : item (index + 1) (g ++ ',' :: (g' ++ (t ++ s))) = .ok (t ++ s) := by
  have hnext : nextItem false (g ++ ',' :: (g' ++ (t ++ s))) = .ok (some (t ++ s)) := by
    obtain ⟨c, w, rfl, hblank, hclose⟩ := ht.startsItem
    have hs : skipBlanks (g' ++ (c :: w ++ s)) = c :: (w ++ s) :=
      skipBlanks_gap_cons hg' hblank (w ++ s)
    rw [nextItem_comma_eq hg hs hclose]
    exact nextItem_first hg' hblank hclose (w ++ s)
  exact congrArg (· >>= _) hnext

theorem readClauseList_append (hn : n ≤ maxOffset) (h : Listed (Field.Spells k v n) Field.all u)
    (rest : Text) : readClauseList (u ++ ']' :: rest) = .ok (⟨.ofText k, v, n⟩, rest) := by
  unfold Field.all at h
  -- the four items, with their commas
  cases h with
  | more hg₁ hkey hg₁' h =>
  cases h with
  | more hg₂ hoperator hg₂' h =>
  cases h with
  | more hg₃ hvalue hg₃' h =>
  cases h with
  | one hg₄ hstart hg₄' =>
  have hclose := hg₄'.endsNumber_append (endsNumber_cons (c := ']') (by decide) rest)
  have hkeyText := fun s => readText_append .text isJsonGap_nil hkey s
  have hoperatorText := fun s => readOperator_append isJsonGap_nil hoperator s
  have hvalueText := fun s => readText_append .text isJsonGap_nil hvalue s
  have hoffset := takes_readOffset isJsonGap_nil hn _ hclose
  have hend : skipMark ']' (_ ++ ']' :: rest) = .ok rest := skipMark_gap hg₄' (by decide) rest
  simp only [List.nil_append] at hkeyText hoperatorText hvalueText hoffset
  obtain rfl := hstart
  simp only [List.append_assoc, List.cons_append, readClauseList,
    item_first hg₁ hkey.isJsonValue, ok_bind, hkeyText,
    item_comma 0 hg₁' hg₂ hoperator.isJsonValue, hoperatorText,
    item_comma 1 hg₂' hg₃ hvalue.isJsonValue, hvalueText,
    item_comma 2 hg₃' hg₄ (isJsonValue_ofNat n), hoffset, endList, hend]

/-! ### Clauses -/

/-- The spellings of a clause with the key text `k`, the value `v` and the start `n`. -/
inductive SpellsClause (k v : Text) (n : Nat) : Text → Prop
  | object {members : List (Text × Text)} {t : Text} : IsObject members t →
      (∀ f, occurrences f members = 1) →
      (∀ f : Field, ∀ value, (f.name, value) ∈ members → f.Spells k v n value) →
      SpellsClause k v n t
  | list {u : Text} : Listed (Field.Spells k v n) Field.all u →
      SpellsClause k v n ('[' :: (u ++ [']']))

theorem SpellsClause.isJsonValue (h : SpellsClause k v n t) : IsJsonValue t := by
  cases h with
  | object h _ _ => exact h.isJsonValue
  | list h => exact .brackets (h.isPart (fun _ _ => Field.Spells.isJsonValue) nofun)

theorem takes_spelledClause (hn : n ≤ maxOffset) (h : SpellsClause k v n t) :
    Takes readClause t ⟨.ofText k, v, n⟩ := by
  intro rest _
  cases h with
  | @object members _ h honce hspells =>
      obtain ⟨u, hu, rfl⟩ := h
      have hkey := Key.text_ofText k
      have hcompletes : Draft.empty.Completes ⟨.ofText k, v, n⟩ members := by
        refine ⟨Draft.agrees_empty _, fun f => ?_, by rwa [hkey]⟩
        rw [Draft.has_empty, honce f]
        rfl
      have hread := hcompletes.readMembers_eq hn hu (hu.length_lt '\x7d' rest) rest
      rw [Clause.reread, hkey] at hread
      rw [List.cons_append, List.append_assoc, readClause, skipBlanks_cons (by decide)]
      exact hread
  | list h =>
      rw [List.cons_append, List.append_assoc, readClause, skipBlanks_cons (by decide)]
      exact readClauseList_append hn h rest

/-- A clause that is all of a text. -/
def readAlone (s : Text) : Except Fault Clause := do
  let (c, s) ← readClause s
  if skipBlanks s = [] then .ok c else .error .malformed

theorem readAlone_gap (hg : IsJsonGap g) (s : Text) : readAlone (g ++ s) = readAlone s := by
  rw [readAlone, readAlone, readClause, readClause, skipBlanks_gap hg]

theorem readAlone_of_takes (h : Takes readClause t c) (hg : IsJsonGap g) (hg' : IsJsonGap g') :
    readAlone (g ++ (t ++ g')) = .ok c := by
  rw [readAlone_gap hg, readAlone, h g' hg'.endsNumber, ok_bind]
  exact if_pos (skipBlanks_of_gap hg')

/-! ### Lists of clauses -/

theorem readItems_start (hg : IsJsonGap g) (ht : StartsItem t)
    (hread : readClause (t ++ s) = .ok (c, rest)) :
    readItems (count + 1) true (g ++ (t ++ s)) =
      (readItems count false rest).map fun (cs, s) => (c :: cs, s) := by
  rw [readItems, nextItem_start hg ht, ok_bind]
  simp only [hread, ok_bind]
  cases readItems count false rest <;> rfl

theorem readItems_comma (hstart : ∀ a t, P a t → StartsItem t) {a : α} (hg : IsJsonGap g)
    (h : Listed P (a :: as) u) (rest : Text) :
    readItems count false (g ++ ',' :: (u ++ rest)) = readItems count true (u ++ rest) := by
  cases count with
  | zero => rfl
  | succ count =>
      obtain ⟨c, w, hs, hc⟩ := h.exists_skipBlanks hstart rest
      have hnext : nextItem true (u ++ rest) = .ok (some (c :: w)) := by
        simp [nextItem, hs]
      rw [readItems, readItems, nextItem_comma_eq hg hs hc, hnext]
      rfl

/-- Clauses that are all read are read one after the other. -/
theorem readItems_listed {P : Clause → Text → Prop} {cs : List Clause}
    (hstart : ∀ c t, P c t → StartsItem t) (hread : ∀ c t, P c t → Takes readClause t c)
    (h : Listed P cs u) (hcount : cs.length < count) (rest : Text) :
    readItems count true (u ++ ']' :: rest) = .ok (cs, rest) := by
  induction h generalizing count with
  | nil hg =>
      obtain ⟨count, rfl⟩ := Nat.exists_eq_add_one_of_ne_zero (Nat.ne_of_gt hcount)
      exact readItems_end hg count true rest
  | @one g t g' c hg hc hg' =>
      obtain ⟨count, rfl⟩ := Nat.exists_eq_add_of_lt hcount
      have hends : EndsNumber (g' ++ ']' :: rest) :=
        hg'.endsNumber_append (endsNumber_cons (by decide) rest)
      rw [List.append_assoc, List.append_assoc,
        readItems_start hg (hstart c t hc) (hread c t hc _ hends), List.length_singleton,
        Nat.add_comm 1, readItems_end hg', map_ok]
  | @more g t g' u c c' cs hg hc hg' hothers ih =>
      obtain ⟨count, rfl⟩ := Nat.exists_eq_add_one_of_ne_zero (Nat.ne_zero_of_lt hcount)
      have hends : EndsNumber (g' ++ ',' :: (u ++ ']' :: rest)) :=
        hg'.endsNumber_append (endsNumber_cons (by decide) _)
      simp only [List.append_assoc, List.cons_append]
      rw [readItems_start hg (hstart c t hc) (hread c t hc _ hends),
        readItems_comma hstart hg' hothers, ih (Nat.lt_of_succ_lt_succ hcount), map_ok]

theorem exists_readClause_of_readItems {r : List Clause × Text} (hg : IsJsonGap g)
    (ht : StartsItem t) (h : readItems count true (g ++ (t ++ s)) = .ok r) :
    ∃ c rest count' r', readClause (t ++ s) = .ok (c, rest) ∧
      readItems count' false rest = .ok r' := by
  cases count with
  | zero => cases h
  | succ count =>
      rw [readItems, nextItem_start hg ht, ok_bind] at h
      obtain ⟨⟨c, rest⟩, hread, h⟩ := bind_eq_ok_iff.mp h
      obtain ⟨r', hrest, -⟩ := bind_eq_ok_iff.mp h
      exact ⟨c, rest, count, r', hread, hrest⟩

/-- A JSON value, as the item of a list. -/
def IsItem (item t : Text) : Prop := item = t ∧ IsJsonValue t

theorem IsItem.startsItem (item t : Text) (h : IsItem item t) : StartsItem t :=
  h.2.startsItem

/-- If a list of values is read, then each of them is read. -/
theorem exists_readClause_of_mem {items : List Text} {r : List Clause × Text}
    (h : Listed IsItem items u) (hread : readItems count true (u ++ ']' :: rest) = .ok r)
    (ht : t ∈ items) : ∃ c s s', readClause (t ++ s) = .ok (c, s') := by
  induction h generalizing count r with
  | nil hg => cases ht
  | @one g t' g' item hg hitem hg' =>
      obtain ⟨rfl, hvalue⟩ := hitem
      obtain rfl := List.mem_singleton.mp ht
      rw [List.append_assoc, List.append_assoc] at hread
      obtain ⟨c, s', -, -, hclause, -⟩ :=
        exists_readClause_of_readItems hg hvalue.startsItem hread
      exact ⟨c, _, s', hclause⟩
  | @more g t' g' u item item' items hg hitem hg' hothers ih =>
      obtain ⟨rfl, hvalue⟩ := hitem
      have hends : EndsNumber (g' ++ ',' :: (u ++ ']' :: rest)) :=
        hg'.endsNumber_append (endsNumber_cons (by decide) _)
      simp only [List.append_assoc, List.cons_append] at hread
      obtain ⟨c, s', count', r', hclause, hrest⟩ :=
        exists_readClause_of_readItems hg hvalue.startsItem hread
      cases ht with
      | head => exact ⟨c, _, s', hclause⟩
      | tail _ ht =>
          obtain rfl := rest_eq_of_readClause hvalue isJsonGap_nil hends hclause
          rw [readItems_comma IsItem.startsItem hg' hothers] at hrest
          exact ih hrest ht

/-! ### All spellings -/

/-- A text that spells a clause. -/
def IsSpelled (c : Clause) (t : Text) : Prop :=
  ∃ k v n, n ≤ maxOffset ∧ SpellsClause k v n t ∧ c = ⟨.ofText k, v, n⟩

theorem IsSpelled.startsItem (c : Clause) (t : Text) (h : IsSpelled c t) : StartsItem t := by
  obtain ⟨k, v, n, -, h, -⟩ := h
  exact h.isJsonValue.startsItem

theorem IsSpelled.takes (c : Clause) (t : Text) (h : IsSpelled c t) : Takes readClause t c := by
  obtain ⟨k, v, n, hn, h, rfl⟩ := h
  exact takes_spelledClause hn h

theorem readClauses_listed {cs : List Clause} (h : Listed IsSpelled cs u) (hg : IsJsonGap g)
    (hg' : IsJsonGap g') : readClauses (g ++ '[' :: (u ++ ']' :: g')) = .ok cs := by
  have hcount := h.length_lt ']' g'
  rw [readClauses, skipBlanks_gap_cons hg (by decide)]
  simp only [readItems_listed IsSpelled.startsItem IsSpelled.takes h hcount, ok_bind,
    skipBlanks_of_gap hg', if_true]

theorem exists_fault_of_readAlone (h : IsObject members t)
    (honce : ∃ f, occurrences f members ≠ 1) (hg : IsJsonGap g) (s : Text) :
    ∃ fault, readAlone (g ++ (t ++ s)) = .error fault := by
  cases hread : readAlone (g ++ (t ++ s)) with
  | error fault => exact ⟨fault, rfl⟩
  | ok c =>
      obtain ⟨f, hf⟩ := honce
      obtain ⟨⟨c, s'⟩, hclause, -⟩ := bind_eq_ok_iff.mp hread
      exact absurd (occurrences_of_readClause h hg hclause f) hf

theorem exists_fault_of_readClauses (h : IsObject members t)
    (honce : ∃ f, occurrences f members ≠ 1) (hg : IsJsonGap g) {items : List Text}
    (hitems : Listed IsItem items u) (ht : t ∈ items) (s : Text) :
    ∃ fault, readClauses (g ++ '[' :: (u ++ ']' :: s)) = .error fault := by
  cases hread : readClauses (g ++ '[' :: (u ++ ']' :: s)) with
  | error fault => exact ⟨fault, rfl⟩
  | ok cs =>
      obtain ⟨f, hf⟩ := honce
      rw [readClauses, skipBlanks_gap_cons hg (by decide)] at hread
      obtain ⟨r, hread, -⟩ := bind_eq_ok_iff.mp hread
      obtain ⟨c, s, s', hclause⟩ := exists_readClause_of_mem hitems hread ht
      exact absurd (occurrences_of_readClause h isJsonGap_nil hclause f) hf

/-- Every spelling of a clause is read as this clause, alone or in a list of any length, with white
space around it. An object in which a field of clauses does not stand, or stands more than once, is
refused, alone and in a list of any values. -/
theorem readClauses_spellings (hg : IsJsonGap g) (hg' : IsJsonGap g') :
    (∀ k v n t, n ≤ maxOffset → SpellsClause k v n t →
      readAlone (g ++ (t ++ g')) = .ok ⟨.ofText k, v, n⟩) ∧
    (∀ cs u, Listed IsSpelled cs u → readClauses (g ++ '[' :: (u ++ ']' :: g')) = .ok cs) ∧
    ∀ members t, IsObject members t → (∃ f, occurrences f members ≠ 1) →
      (∃ fault, readAlone (g ++ (t ++ g')) = .error fault) ∧
      ∀ items u, Listed IsItem items u → t ∈ items →
        ∃ fault, readClauses (g ++ '[' :: (u ++ ']' :: g')) = .error fault := by
  refine ⟨?_, ?_, ?_⟩
  · intro k v n t hn h
    exact readAlone_of_takes (takes_spelledClause hn h) hg hg'
  · intro cs u h
    exact readClauses_listed h hg hg'
  · intro members t h honce
    refine ⟨exists_fault_of_readAlone h honce hg g', ?_⟩
    intro items u hitems ht
    exact exists_fault_of_readClauses h honce hg hitems ht g'

/-- An object with its fields in another order, one of them spelled by its code unit, and a field
that no clause has; the list with the same values; and an object with one field twice. -/
theorem readClauses_spellings_shuffled :
    let gap : Text := " \n"
    let object : Text :=
      "\x7b\"x\":[\x7b\x7d],\"value\":\"\\u0061\",\"offsetStart\":7," ++
        "\"operator\":\x7b\"=\":null\x7d,\"key\":\"k\"\x7d"
    let list : Text := "[\"k\",\"=\",\"a\",7]"
    let twice : Text := "\x7b\"key\":\"k\",\"key\":\"k\"\x7d"
    IsJsonGap gap ∧ SpellsClause "k" "a" 7 object ∧ SpellsClause "k" "a" 7 list ∧
      readAlone (gap ++ (object ++ gap)) = .ok ⟨.field "k", "a", 7⟩ ∧
      readClauses (gap ++ '[' :: (object ++ ',' :: list ++ ']' :: gap)) =
        .ok [⟨.field "k", "a", 7⟩, ⟨.field "k", "a", 7⟩] ∧
      (∃ fault, readAlone (gap ++ (twice ++ gap)) = .error fault) ∧
      ∃ fault, readClauses (gap ++ '[' :: (list ++ ',' :: twice ++ ']' :: gap)) = .error fault := by
  intro gap object list twice
  have hgap : IsJsonGap gap := List.all_eq_true.mp (by decide)
  have hk : SpellsText "k" "\"k\"" := spellsText_writeText "k"
  have ha : SpellsText "a" "\"a\"" := spellsText_writeText "a"
  have hcode : IsCode "0061" 0x61 := ⟨rfl, by decide⟩
  have hescaped : SpellsText "a" "\"\\u0061\"" :=
    ⟨_, .code hcode (by decide) (by decide) .nil, rfl⟩
  have hname : SpellsOperator "\"=\"" := .name (spellsText_writeText equalsSign)
  have hunit : SpellsOperator "\x7b\"=\":null\x7d" :=
    .object isJsonGap_nil (spellsText_writeText equalsSign) isJsonGap_nil isJsonGap_nil
      isJsonGap_nil
  have hnested : IsJsonValue "[\x7b\x7d]" :=
    .brackets (.one .list isJsonGap_nil (.empty .object isJsonGap_nil) isJsonGap_nil)
  have hmember (name : Text) {value : Text} (h : IsJsonValue value) :
      IsMember (name, value) ('"' :: (name.flatMap writeChar ++ '"' :: ':' :: value)) :=
    .spelled (spells_flatMap_writeChar name) isJsonGap_nil isJsonGap_nil h
  have hobject : SpellsClause "k" "a" 7 object := by
    have hmembers := Listed.more isJsonGap_nil (hmember "x" hnested) isJsonGap_nil
      (.more isJsonGap_nil (hmember "value" hescaped.isJsonValue) isJsonGap_nil
        (.more isJsonGap_nil (hmember "offsetStart" (isJsonValue_ofNat 7)) isJsonGap_nil
          (.more isJsonGap_nil (hmember "operator" hunit.isJsonValue) isJsonGap_nil
            (.one isJsonGap_nil (hmember "key" hk.isJsonValue) isJsonGap_nil))))
    refine .object ⟨_, hmembers, rfl⟩ (fun f => by cases f <;> decide) ?_
    intro f value hmem
    simp only [List.mem_cons, List.not_mem_nil, or_false, Prod.mk.injEq] at hmem
    rcases hmem with ⟨hf, rfl⟩ | ⟨hf, rfl⟩ | ⟨hf, rfl⟩ | ⟨hf, rfl⟩ | ⟨hf, rfl⟩ <;>
      cases f <;> first | exact absurd hf (by decide) | assumption | rfl
  have hlist : SpellsClause "k" "a" 7 list :=
    .list (.more isJsonGap_nil hk isJsonGap_nil (.more isJsonGap_nil hname isJsonGap_nil
      (.more isJsonGap_nil ha isJsonGap_nil (.one isJsonGap_nil rfl isJsonGap_nil))))
  have htwice : IsObject [("key", "\"k\""), ("key", "\"k\"")] twice :=
    ⟨_, .more isJsonGap_nil (hmember "key" hk.isJsonValue) isJsonGap_nil
      (.one isJsonGap_nil (hmember "key" hk.isJsonValue) isJsonGap_nil), rfl⟩
  have hspelled {t : Text} (h : SpellsClause "k" "a" 7 t) : IsSpelled ⟨.field "k", "a", 7⟩ t :=
    ⟨"k", "a", 7, by decide, h, rfl⟩
  obtain ⟨halone, hclauses, hrefused⟩ := readClauses_spellings hgap hgap
  obtain ⟨hfault, hfaults⟩ := hrefused _ twice htwice ⟨.key, by decide⟩
  refine ⟨hgap, hobject, hlist, halone "k" "a" 7 object (by decide) hobject, ?_, hfault, ?_⟩
  · exact hclauses _ _ (.more isJsonGap_nil (hspelled hobject) isJsonGap_nil
      (.one isJsonGap_nil (hspelled hlist) isJsonGap_nil))
  · have hitems : Listed IsItem [list, twice] _ :=
      .more isJsonGap_nil ⟨rfl, hlist.isJsonValue⟩ isJsonGap_nil
        (.one isJsonGap_nil ⟨rfl, htwice.isJsonValue⟩ isJsonGap_nil)
    exact hfaults _ _ hitems (.tail _ (.head _))

end LogFilter.Json
