import LogFilter.Proofs.Json.Extent

/-!
# Reading the fields of an object

The fields of an object may come in any order, and those that no clause has may stand between them.
They are read one by one into a draft: a field that is seen for the second time is refused, and at
the end each field of a clause has to have been seen.
-/

namespace LogFilter.Json

variable {s t u g g' rest name content value : Text} {count : Nat} {c : Clause} {d d' : Draft}
  {members : List (Text × Text)} {α : Type} {P : α → Text → Prop} {as : List α}

/-! ### Lists and objects -/

/-- Items with commas between them, and with white space around each of them. -/
inductive Listed {α : Type} (P : α → Text → Prop) : List α → Text → Prop
  | nil {g : Text} : IsJsonGap g → Listed P [] g
  | one {g t g' : Text} {a : α} : IsJsonGap g → P a t → IsJsonGap g' →
      Listed P [a] (g ++ (t ++ g'))
  | more {g t g' u : Text} {a b : α} {as : List α} : IsJsonGap g → P a t → IsJsonGap g' →
      Listed P (b :: as) u → Listed P (a :: b :: as) (g ++ (t ++ (g' ++ ',' :: u)))

theorem Listed.length_le (h : Listed P as u) : as.length ≤ u.length + 1 := by
  induction h with
  | nil _ => exact Nat.zero_le _
  | one _ _ _ => exact Nat.le_add_left 1 _
  | more _ _ _ _ ih =>
      simp only [List.length_cons, List.length_append] at ih ⊢
      omega

/-- The bracket that ends a list lets the readers count all of its items. -/
theorem Listed.length_lt (h : Listed P as u) (close : Char) (rest : Text) :
    as.length < (u ++ close :: rest).length + 1 := by
  have hlength := h.length_le
  simp only [List.length_append, List.length_cons]
  omega

theorem Listed.exists_skipBlanks {a : α} {start : Char → Prop}
    (hstart : ∀ a t, P a t → ∃ c w, t = c :: w ∧ isJsonBlank c = false ∧ start c)
    (h : Listed P (a :: as) u) (rest : Text) :
    ∃ c w, skipBlanks (u ++ rest) = c :: w ∧ start c := by
  cases h with
  | one hg ht _ =>
      obtain ⟨c, w, rfl, hblank, hc⟩ := hstart _ _ ht
      rw [List.append_assoc, List.append_assoc]
      exact ⟨c, _, skipBlanks_gap_cons hg hblank _, hc⟩
  | more hg ht _ _ =>
      obtain ⟨c, w, rfl, hblank, hc⟩ := hstart _ _ ht
      rw [List.append_assoc, List.append_assoc]
      exact ⟨c, _, skipBlanks_gap_cons hg hblank _, hc⟩

theorem Listed.isPart (hP : ∀ a t, P a t → IsJsonValue t) (h : Listed P as u) (hne : as ≠ []) :
    IsPart (.items .list) u := by
  induction h with
  | nil _ => exact absurd rfl hne
  | one hg ht hg' => exact .one .list hg (hP _ _ ht) hg'
  | more hg ht hg' _ ih => exact .more .list hg (hP _ _ ht) hg' (ih nofun)

/-- The field of an object, with its name and the text of its value. -/
inductive IsMember : Text × Text → Text → Prop
  | spelled {name content g g' value : Text} : Spells name content → IsJsonGap g → IsJsonGap g' →
      IsJsonValue value →
      IsMember (name, value) ('"' :: (content ++ '"' :: (g ++ ':' :: (g' ++ value))))

/-- An object with some fields. -/
def IsObject (members : List (Text × Text)) (t : Text) : Prop :=
  ∃ u, Listed IsMember members u ∧ t = '\x7b' :: (u ++ ['\x7d'])

theorem isPart_members (h : Listed IsMember members u) (hne : members ≠ []) :
    IsPart (.items .object) u := by
  induction h with
  | nil _ => exact absurd rfl hne
  | one hg hmember hg' =>
      obtain ⟨hcontent, hgap, hgap', hvalue⟩ := hmember
      have hlead := IsLead.object hg hcontent.isContent hgap
      simpa using IsPart.one hlead hgap' hvalue hg'
  | more hg hmember hg' _ ih =>
      obtain ⟨hcontent, hgap, hgap', hvalue⟩ := hmember
      have hlead := IsLead.object hg hcontent.isContent hgap
      simpa using IsPart.more hlead hgap' hvalue hg' (ih nofun)

theorem IsObject.isJsonValue (h : IsObject members t) : IsJsonValue t := by
  obtain ⟨u, hu, rfl⟩ := h
  by_cases hne : members = []
  · subst hne
    cases hu with
    | nil hg => exact .empty .object hg
  · exact .brackets (isPart_members hu hne)

/-- How often a field of clauses stands in an object. -/
def occurrences (f : Field) (members : List (Text × Text)) : Nat :=
  (members.map Prod.fst).count f.name

theorem occurrences_cons (f : Field) (name value : Text) (members : List (Text × Text)) :
    occurrences f ((name, value) :: members) =
      occurrences f members + if name = f.name then 1 else 0 := by
  simp only [occurrences, List.map_cons, List.count_cons, beq_iff_eq]

/-! ### One field of an object -/

theorem Field.eq_of_ofName? {f : Field} (h : Field.ofName? name = some f) : name = f.name := by
  have hname := List.find?_some h
  exact (of_decide_eq_true hname).symm

theorem Field.name_injective {f f' : Field} (h : f.name = f'.name) : f = f' := by
  have hsome : some f = some f' := by rw [← f.ofName?_name, h, f'.ofName?_name]
  exact Option.some.inj hsome

theorem Field.ne_name_of_ofName? (h : Field.ofName? name = none) (f : Field) : name ≠ f.name := by
  rintro rfl
  rw [f.ofName?_name] at h
  cases h

theorem Draft.has_of_readField {f : Field} (h : d.readField f s = .ok (d', rest)) (f' : Field) :
    d'.has f' = (d.has f' || f = f') := by
  cases f
  all_goals
    obtain ⟨_, -, heq⟩ := map_eq_ok_iff.mp h
    obtain ⟨rfl, -⟩ := Prod.mk.inj heq
    cases f' <;> simp [Draft.has]

/-- A field that is read is read whole, and it is seen once more than before. -/
theorem readMember_eq_ok (hcontent : Spells name content) (hg : IsJsonGap g) (hg' : IsJsonGap g')
    (hvalue : IsJsonValue value) (hs : EndsNumber s)
    (h : readMember d (content ++ '"' :: (g ++ ':' :: (g' ++ (value ++ s)))) = .ok (d', rest)) :
    rest = s ∧
      ∀ f : Field, (d'.has f).toNat = (d.has f).toNat + if name = f.name then 1 else 0 := by
  rw [readMember_append hcontent hg] at h
  split at h
  · next f hf =>
    obtain rfl := Field.eq_of_ofName? hf
    split at h
    · cases h
    · next hnew =>
      refine ⟨(passesTo_of_readField h).unique (hvalue.passesTo hg' hs), fun f' => ?_⟩
      rw [Draft.has_of_readField h]
      by_cases heq : f = f'
      · subst heq
        simp [hnew]
      · have hname : f.name ≠ f'.name := fun hname => heq (Field.name_injective hname)
        simp [heq, hname]
  · next hf =>
    rw [skipValue_append hvalue hg' hs, map_ok] at h
    obtain ⟨rfl, rfl⟩ := Prod.mk.inj (Except.ok.inj h)
    exact ⟨rfl, fun f => by rw [if_neg (Field.ne_name_of_ofName? hf f), Nat.add_zero]⟩

/-! ### All fields of an object -/

theorem readMembers_comma {member : Text × Text} (hg : IsJsonGap g)
    (h : Listed IsMember (member :: members) u) (rest : Text) :
    readMembers count false d (g ++ ',' :: (u ++ rest)) =
      readMembers count true d (u ++ rest) := by
  cases count with
  | zero => rfl
  | succ count =>
      have hquote : ∀ member t, IsMember member t →
          ∃ c w, t = c :: w ∧ isJsonBlank c = false ∧ c = '"' := by
        rintro _ _ ⟨_, _, _, _⟩
        exact ⟨'"', _, rfl, rfl, rfl⟩
      obtain ⟨_, w, hw, rfl⟩ := h.exists_skipBlanks hquote rest
      have hfirst : nextField true (u ++ rest) = .ok (some w) := by
        rw [nextField, hw]
        rfl
      have hcomma : nextField false (g ++ ',' :: (u ++ rest)) = .ok (some w) := by
        rw [nextField, skipBlanks_gap_cons hg (by decide)]
        simp [skipMark, hw]
      rw [readMembers, readMembers, hfirst, hcomma]
      rfl

theorem readMembers_first (hg : IsJsonGap g) (s : Text) :
    readMembers (count + 1) true d (g ++ '"' :: s) =
      (readMember d s).bind fun (d, s) => readMembers count false d s := by
  rw [readMembers, nextField_first hg]
  rfl

/-! ### Objects that are refused -/

theorem Draft.has_of_finish (h : d.finish = .ok c) (f : Field) : d.has f = true := by
  unfold finish at h
  split at h
  · next hkey hoperator hvalue hstart =>
    cases f <;> simp [has, hkey, hoperator, hvalue, hstart]
  all_goals cases h

theorem has_of_readMembers_end (hg : IsJsonGap g) {first : Bool}
    (h : readMembers count first d (g ++ '\x7d' :: rest) = .ok (c, s)) (f : Field) :
    d.has f = true := by
  cases count with
  | zero => cases h
  | succ count =>
      rw [readMembers_end hg] at h
      obtain ⟨clause, hfinish, -⟩ := map_eq_ok_iff.mp h
      exact Draft.has_of_finish hfinish f

theorem exists_readMembers_rest (hg : IsJsonGap g) (hmember : IsMember (name, value) t)
    (hs : EndsNumber s) {r : Clause × Text}
    (h : readMembers count true d (g ++ (t ++ s)) = .ok r) :
    ∃ d' count', readMembers count' false d' s = .ok r ∧
      ∀ f : Field, (d'.has f).toNat = (d.has f).toNat + if name = f.name then 1 else 0 := by
  cases count with
  | zero => cases h
  | succ count =>
      obtain ⟨hcontent, hgap, hgap', hvalue⟩ := hmember
      simp only [List.append_assoc, List.cons_append] at h
      rw [readMembers_first hg] at h
      obtain ⟨⟨d', left⟩, hstep, hrest⟩ := bind_eq_ok_iff.mp h
      obtain ⟨rfl, hhas⟩ := readMember_eq_ok hcontent hgap hgap' hvalue hs hstep
      exact ⟨d', count, hrest, hhas⟩

/-- Of an object that is read, each field of clauses is seen once: by the draft already, or by what
follows. -/
theorem occurrences_of_readMembers (h : Listed IsMember members u)
    (hread : readMembers count true d (u ++ '\x7d' :: rest) = .ok (c, s)) (f : Field) :
    occurrences f members + (d.has f).toNat = 1 := by
  induction h generalizing count d with
  | nil hg =>
      rw [has_of_readMembers_end hg hread f]
      rfl
  | @one g t g' member hg hmember hg' =>
      have hends : EndsNumber (g' ++ '\x7d' :: rest) :=
        hg'.endsNumber_append (endsNumber_cons (by decide) rest)
      rw [List.append_assoc, List.append_assoc] at hread
      obtain ⟨d', count', hend, hhas⟩ := exists_readMembers_rest hg hmember hends hread
      have hf := hhas f
      rw [has_of_readMembers_end hg' hend f] at hf
      rw [occurrences_cons]
      simp only [occurrences, List.map_nil, List.count_nil, Bool.toNat_true] at hf ⊢
      omega
  | @more g t g' u member member' members hg hmember hg' hothers ih =>
      have hends : EndsNumber (g' ++ ',' :: (u ++ '\x7d' :: rest)) :=
        hg'.endsNumber_append (endsNumber_cons (by decide) _)
      simp only [List.append_assoc, List.cons_append] at hread
      obtain ⟨d', count', hrest, hhas⟩ := exists_readMembers_rest hg hmember hends hread
      rw [readMembers_comma hg' hothers] at hrest
      have hf := hhas f
      have hothers := ih hrest
      rw [occurrences_cons]
      omega

theorem occurrences_of_readClause (h : IsObject members t) (hg : IsJsonGap g)
    (hread : readClause (g ++ (t ++ rest)) = .ok (c, s)) (f : Field) :
    occurrences f members = 1 := by
  obtain ⟨u, hu, rfl⟩ := h
  rw [List.cons_append, List.append_assoc, readClause, skipBlanks_gap_cons hg (by decide)] at hread
  have hcount := occurrences_of_readMembers hu hread f
  rwa [Draft.has_empty, Bool.toNat_false, Nat.add_zero] at hcount

/-! ### Objects that are read -/

/-- The fields that a draft has are those of a clause. -/
def Draft.Agrees (c : Clause) (d : Draft) : Prop := ∀ f, d.has f = true → d.fill c f = d

theorem Draft.agrees_empty (c : Clause) : empty.Agrees c := by
  intro f hf
  rw [has_empty] at hf
  cases hf

theorem Draft.fill_comm (c : Clause) (d : Draft) (f f' : Field) :
    (d.fill c f).fill c f' = (d.fill c f').fill c f := by
  cases f <;> cases f' <;> rfl

theorem Draft.Agrees.fill (h : d.Agrees c) (f : Field) : (d.fill c f).Agrees c := by
  intro f' hf'
  by_cases heq : f = f'
  · subst heq
    cases f <;> rfl
  · rw [has_fill_of_ne heq] at hf'
    rw [fill_comm, h f' hf']

theorem Draft.Agrees.finish (h : d.Agrees c) (hall : ∀ f, d.has f = true) :
    d.finish = .ok c.reread := by
  have hfilled : (((d.fill c .key).fill c .operator).fill c .value).fill c .offsetStart = d := by
    rw [h .key (hall .key), h .operator (hall .operator), h .value (hall .value),
      h .offsetStart (hall .offsetStart)]
  rw [← hfilled]
  rfl

/-- What a draft lacks of a clause stands among some fields, each once. -/
structure Draft.Completes (c : Clause) (d : Draft) (members : List (Text × Text)) : Prop where
  agrees : d.Agrees c
  once : ∀ f, occurrences f members + (d.has f).toNat = 1
  spells : ∀ f : Field, ∀ value, (f.name, value) ∈ members →
    f.Spells c.key.text c.value c.start value

theorem Draft.Completes.finish (h : d.Completes c []) : d.finish = .ok c.reread := by
  refine h.agrees.finish fun f => Bool.toNat_eq_one.mp ?_
  have honce := h.once f
  simpa [occurrences] using honce

theorem Draft.Completes.has_eq_false {f : Field} (h : d.Completes c ((name, value) :: members))
    (hname : name = f.name) : d.has f = false := by
  have honce := h.once f
  rw [occurrences_cons, if_pos hname] at honce
  exact Bool.toNat_eq_zero.mp (by omega)

/-- The next field is read, and the draft is completed by the others. -/
theorem Draft.Completes.exists_readMember (h : d.Completes c ((name, value) :: members))
    (hc : c.start ≤ maxOffset) (hcontent : Spells name content) (hg : IsJsonGap g)
    (hg' : IsJsonGap g') (hvalue : IsJsonValue value) (hs : EndsNumber s) :
    ∃ d' : Draft, d'.Completes c members ∧
      readMember d (content ++ '"' :: (g ++ ':' :: (g' ++ (value ++ s)))) = .ok (d', s) := by
  have hread : ∃ d' : Draft, d'.Agrees c ∧
      readMember d (content ++ '"' :: (g ++ ':' :: (g' ++ (value ++ s)))) = .ok (d', s) := by
    rw [readMember_append hcontent hg]
    cases hname : Field.ofName? name with
    | some f =>
        obtain rfl := Field.eq_of_ofName? hname
        have hfield := d.takes_readField hc hg' (h.spells f value (.head _)) s hs
        rw [List.append_assoc] at hfield
        refine ⟨d.fill c f, h.agrees.fill f, ?_⟩
        simp only [h.has_eq_false rfl, hfield, Bool.false_eq_true, if_false]
    | none => exact ⟨d, h.agrees, by simp only [skipValue_append hvalue hg' hs, map_ok]⟩
  obtain ⟨d', hagrees, hread⟩ := hread
  obtain ⟨-, hhas⟩ := readMember_eq_ok hcontent hg hg' hvalue hs hread
  refine ⟨d', ⟨hagrees, fun f => ?_, fun f value hmem => h.spells f value (.tail _ hmem)⟩, hread⟩
  have honce := h.once f
  rw [occurrences_cons] at honce
  rw [hhas f]
  omega

theorem Draft.Completes.exists_readMembers (h : d.Completes c ((name, value) :: members))
    (hc : c.start ≤ maxOffset) (hg : IsJsonGap g) (hmember : IsMember (name, value) t)
    (hs : EndsNumber s) :
    ∃ d' : Draft, d'.Completes c members ∧
      ∀ count, readMembers (count + 1) true d (g ++ (t ++ s)) = readMembers count false d' s := by
  obtain ⟨hcontent, hgap, hgap', hvalue⟩ := hmember
  obtain ⟨d', hd', hread⟩ := h.exists_readMember hc hcontent hgap hgap' hvalue hs
  refine ⟨d', hd', fun count => ?_⟩
  simp only [List.append_assoc, List.cons_append]
  rw [readMembers_first hg, hread]
  rfl

/-- The fields of an object are read into a draft that they complete, in any order. -/
theorem Draft.Completes.readMembers_eq (h : d.Completes c members) (hc : c.start ≤ maxOffset)
    (hu : Listed IsMember members u) (hcount : members.length < count) (rest : Text) :
    readMembers count true d (u ++ '\x7d' :: rest) = .ok (c.reread, rest) := by
  induction hu generalizing count d with
  | nil hg =>
      obtain ⟨count, rfl⟩ := Nat.exists_eq_add_one_of_ne_zero (Nat.ne_of_gt hcount)
      rw [readMembers_end hg, h.finish, map_ok]
  | @one g t g' member hg hmember hg' =>
      obtain ⟨count, rfl⟩ := Nat.exists_eq_add_of_lt hcount
      have hends : EndsNumber (g' ++ '\x7d' :: rest) :=
        hg'.endsNumber_append (endsNumber_cons (by decide) rest)
      obtain ⟨d', hd', hstep⟩ := h.exists_readMembers hc hg hmember hends
      rw [List.append_assoc, List.append_assoc, hstep, List.length_singleton, Nat.add_comm 1,
        readMembers_end hg', hd'.finish, map_ok]
  | @more g t g' u member member' members hg hmember hg' hothers ih =>
      obtain ⟨count, rfl⟩ := Nat.exists_eq_add_one_of_ne_zero (Nat.ne_zero_of_lt hcount)
      have hends : EndsNumber (g' ++ ',' :: (u ++ '\x7d' :: rest)) :=
        hg'.endsNumber_append (endsNumber_cons (by decide) _)
      obtain ⟨d', hd', hstep⟩ := h.exists_readMembers hc hg hmember hends
      simp only [List.append_assoc, List.cons_append]
      rw [hstep, readMembers_comma hg' hothers, ih hd' (Nat.lt_of_succ_lt_succ hcount)]

end LogFilter.Json
