import LogFilter.Proofs.Query.Cursor

/-!
# Offsets in 64-bit words

Offsets and lengths as words, whose sums wrap around. The length of a clause is a sum that never
does, and the offset behind a clause stops at the largest word, which changes no search for the
clause at a cursor (`clauseAtWord?_exact`).
-/

namespace LogFilter

/-- A text in memory has at most so many bytes. -/
def maxLength : Nat := (1 <<< 63) - 1

/-- A key and a value as long as texts can be leave just room for the colon. -/
theorem maxLength_add_maxLength : maxLength + 1 + maxLength = maxOffset := rfl

/-! ## Sums of words -/

/-- The sum, or the largest word if the sum is too large. A sum that has wrapped around is less than
its parts. -/
def saturatingAdd (a b : UInt64) : UInt64 := if a + b < a then .ofNat maxOffset else a + b

theorem le_maxOffset_iff {n : Nat} : n ≤ maxOffset ↔ n < 1 <<< 64 := by
  rw [maxOffset]
  omega

theorem toNat_ofNat_of_le {n : Nat} (h : n ≤ maxOffset) : (UInt64.ofNat n).toNat = n := by
  rw [UInt64.toNat_ofNat']
  exact Nat.mod_eq_of_lt (le_maxOffset_iff.mp h)

theorem toNat_le_maxOffset (a : UInt64) : a.toNat ≤ maxOffset :=
  le_maxOffset_iff.mpr a.toNat_lt

theorem toNat_add_of_le {a b : UInt64} (h : a.toNat + b.toNat ≤ maxOffset) :
    (a + b).toNat = a.toNat + b.toNat := by
  rw [UInt64.toNat_add]
  exact Nat.mod_eq_of_lt (le_maxOffset_iff.mp h)

theorem add_lt_iff_past {a b : UInt64} : a + b < a ↔ maxOffset < a.toNat + b.toNat := by
  have ha := a.toNat_lt
  have hb := b.toNat_lt
  rw [UInt64.lt_iff_toNat_lt, UInt64.toNat_add, ← Nat.not_le, ← Nat.not_le, le_maxOffset_iff]
  omega

theorem toNat_saturatingAdd (a b : UInt64) :
    (saturatingAdd a b).toNat = min (a.toNat + b.toNat) maxOffset := by
  rw [saturatingAdd]
  split
  · next h =>
    rw [toNat_ofNat_of_le (Nat.le_refl _), Nat.min_eq_right (Nat.le_of_lt (add_lt_iff_past.mp h))]
  · next h =>
    have hle : a.toNat + b.toNat ≤ maxOffset := Nat.not_lt.mp fun hlt => h (add_lt_iff_past.mpr hlt)
    rw [toNat_add_of_le hle, Nat.min_eq_left hle]

/-! ## Clauses -/

def Text.sizeWord (s : Text) : UInt64 := .ofNat (byteLength s)

namespace Clause

/-- A clause whose texts can be in memory, at an offset that a word can hold. -/
structure InMemory (c : Clause) : Prop where
  key_le : byteLength c.key.text ≤ maxLength
  value_le : byteLength c.value ≤ maxLength
  start_le : c.start ≤ maxOffset

/-- The number of bytes of the clause as it is typed. -/
def sizeWord (c : Clause) : UInt64 :=
  match c.key with
  | .body => c.value.sizeWord
  | .field name => name.sizeWord + 1 + c.value.sizeWord

def startWord (c : Clause) : UInt64 := .ofNat c.start

/-- The offset just past the clause, or the largest one. -/
def stopWord (c : Clause) : UInt64 := saturatingAdd c.startWord c.sizeWord

def touchesWord (cursor : UInt64) (c : Clause) : Bool :=
  c.startWord ≤ cursor && cursor ≤ c.stopWord

end Clause

/-- The index of the first clause that a cursor touches, all in words. -/
def clauseAtWord? (cursor : UInt64) (clauses : List Clause) : Option Nat :=
  clauses.findIdx? (·.touchesWord cursor)

theorem Text.toNat_sizeWord {s : Text} (h : byteLength s ≤ maxLength) :
    s.sizeWord.toNat = byteLength s := by
  have hle : maxLength ≤ maxOffset := by decide
  exact toNat_ofNat_of_le (Nat.le_trans h hle)

namespace Clause

theorem InMemory.sum_le {c : Clause} (h : c.InMemory) :
    byteLength c.key.text + 1 + byteLength c.value ≤ maxOffset := by
  rw [← maxLength_add_maxLength]
  exact Nat.add_le_add (Nat.add_le_add_right h.key_le 1) h.value_le

theorem byteLength_text_field (name value : Text) (start : Nat) :
    byteLength (field name value start).text = byteLength name + 1 + byteLength value := by
  rw [field, text, byteLength_append, byteLength_cons, utf8Size_colon, Nat.add_assoc]

theorem InMemory.toNat_sizeWord {c : Clause} (h : c.InMemory) :
    c.sizeWord.toNat = byteLength c.text := by
  have hsum := h.sum_le
  have hvalue := Text.toNat_sizeWord h.value_le
  have hkey := Text.toNat_sizeWord h.key_le
  obtain ⟨key, value, start⟩ := c
  cases key with
  | body => exact hvalue
  | field name =>
      simp only [Key.text] at hsum hkey
      have hname : (name.sizeWord + 1).toNat = byteLength name + 1 := by
        rw [toNat_add_of_le, hkey]
        · rfl
        · rw [hkey]
          exact Nat.le_trans (Nat.le_add_right _ _) hsum
      have hsize : (name.sizeWord + 1 + value.sizeWord).toNat =
          byteLength name + 1 + byteLength value := by
        rw [toNat_add_of_le, hname, hvalue]
        rwa [hname, hvalue]
      exact hsize.trans (byteLength_text_field name value start).symm

theorem InMemory.toNat_startWord {c : Clause} (h : c.InMemory) : c.startWord.toNat = c.start :=
  toNat_ofNat_of_le h.start_le

theorem InMemory.toNat_stopWord {c : Clause} (h : c.InMemory) : c.stopWord.toNat = c.stop := by
  rw [stopWord, toNat_saturatingAdd, h.toNat_startWord, h.toNat_sizeWord, stop]

theorem InMemory.start_le_stop {c : Clause} (h : c.InMemory) : c.start ≤ c.stop :=
  Nat.le_min.mpr ⟨Nat.le_add_right _ _, h.start_le⟩

theorem InMemory.touchesWord_eq {c : Clause} (h : c.InMemory) (p : UInt64) :
    c.touchesWord p = c.touches p.toNat := by
  simp only [touchesWord, touches, UInt64.le_iff_toNat_le, h.toNat_startWord, h.toNat_stopWord]

/-- Whether an offset stands in the clause, its two ends included, wherever it ends. -/
def Spans (p : Nat) (c : Clause) : Prop := c.start ≤ p ∧ p ≤ c.spot.stop

/-- A cursor that a word can hold is not past an end that is cut short. -/
theorem touches_iff_spans {p : Nat} (hp : p ≤ maxOffset) {c : Clause} :
    c.touches p = true ↔ c.Spans p := by
  have hstop : p ≤ c.stop ↔ p ≤ c.spot.stop :=
    Nat.le_min.trans (and_iff_left hp)
  rw [touches_iff, Spans, hstop]

end Clause

/-! ## The clause at a cursor -/

/-- The search in words finds what the search by offsets does. -/
theorem clauseAtWord?_eq {clauses : List Clause} (h : ∀ c ∈ clauses, c.InMemory) (p : UInt64) :
    clauseAtWord? p clauses = clauseAt? p.toNat clauses := by
  induction clauses with
  | nil => rfl
  | cons c clauses ih =>
      obtain ⟨hc, hrest⟩ := List.forall_mem_cons.mp h
      have htail : clauses.findIdx? (·.touchesWord p) = clauses.findIdx? (·.touches p.toNat) :=
        ih hrest
      rw [clauseAtWord?, clauseAt?, List.findIdx?_cons, List.findIdx?_cons, hc.touchesWord_eq,
        htail]

theorem clauseAt?_eq_some_iff_spans {p : Nat} (hp : p ≤ maxOffset) {clauses : List Clause}
    {i : Nat} :
    clauseAt? p clauses = some i ↔
      ∃ c ∈ clauses[i]?, c.Spans p ∧ ∀ d ∈ clauses.take i, ¬ d.Spans p := by
  rw [clauseAt?, List.findIdx?_eq_some_iff_getElem]
  constructor
  · rintro ⟨hi, ht, hfirst⟩
    refine ⟨clauses[i], List.getElem?_eq_getElem hi, (Clause.touches_iff_spans hp).mp ht, ?_⟩
    intro d hd hspans
    obtain ⟨j, hj, rfl⟩ := List.mem_take_iff_getElem.mp hd
    have hji : j < i := Nat.lt_of_lt_of_le hj (Nat.min_le_left _ _)
    exact hfirst j hji ((Clause.touches_iff_spans hp).mpr hspans)
  · rintro ⟨c, hc, hspans, hfirst⟩
    obtain ⟨hi, rfl⟩ := List.getElem?_eq_some_iff.mp hc
    refine ⟨hi, (Clause.touches_iff_spans hp).mpr hspans, ?_⟩
    intro j hji ht
    have hj : clauses[j] ∈ clauses.take i :=
      List.mem_take_iff_getElem.mpr ⟨j, Nat.lt_min.mpr ⟨hji, Nat.lt_trans hji hi⟩, rfl⟩
    exact hfirst _ hj ((Clause.touches_iff_spans hp).mp ht)

theorem clauseAt?_eq_none_iff_spans {p : Nat} (hp : p ≤ maxOffset) {clauses : List Clause} :
    clauseAt? p clauses = none ↔ ∀ c ∈ clauses, ¬ c.Spans p := by
  simp only [clauseAt?, List.findIdx?_eq_none_iff, ← Clause.touches_iff_spans hp,
    Bool.not_eq_true]

theorem byteLength_replicate (n : Nat) (c : Char) :
    byteLength (List.replicate n c) = n * c.utf8Size := by
  induction n with
  | zero => simp
  | succ n ih => rw [List.replicate_succ, byteLength_cons, ih, Nat.succ_mul, Nat.add_comm]

/-- No sum of lengths wraps around, and the offset behind a clause is the exact one where a word can
hold it. So a search in words finds the first clause that has the cursor between its exact ends,
however the clauses are ordered and wherever they stand. -/
theorem clauseAtWord?_exact :
    (∀ c : Clause, c.InMemory →
      byteLength c.key.text + 1 + byteLength c.value ≤ maxOffset ∧
        c.sizeWord.toNat = byteLength c.text ∧
        c.stopWord.toNat = min (c.start + byteLength c.text) maxOffset ∧
        c.start ≤ c.stopWord.toNat) ∧
      ∀ (clauses : List Clause) (p : UInt64), (∀ c ∈ clauses, c.InMemory) →
        clauseAtWord? p clauses = clauseAt? p.toNat clauses ∧
          (∀ i, clauseAtWord? p clauses = some i ↔
            ∃ c ∈ clauses[i]?, c.Spans p.toNat ∧ ∀ d ∈ clauses.take i, ¬ d.Spans p.toNat) ∧
          (clauseAtWord? p clauses = none ↔ ∀ c ∈ clauses, ¬ c.Spans p.toNat) := by
  constructor
  · intro c hc
    refine ⟨hc.sum_le, hc.toNat_sizeWord, hc.toNat_stopWord, ?_⟩
    rw [hc.toNat_stopWord]
    exact hc.start_le_stop
  · intro clauses p h
    have hp := toNat_le_maxOffset p
    rw [clauseAtWord?_eq h p]
    exact ⟨rfl, fun i => clauseAt?_eq_some_iff_spans hp, clauseAt?_eq_none_iff_spans hp⟩

/-- The second clause is as long as a clause can be, and the first one has no offset behind it. -/
theorem clauseAtWord?_exact_longest :
    let longest : Clause := .field (.replicate maxLength 'k') (.replicate maxLength 'v') 1
    let clauses : List Clause := [.body "é" maxOffset, longest]
    (∀ c ∈ clauses, c.InMemory) ∧ longest.sizeWord.toNat = maxOffset ∧
      longest.stopWord.toNat = maxOffset ∧
      clauseAtWord? (.ofNat maxOffset) clauses = some 0 ∧ clauseAtWord? 2 clauses = some 1 ∧
      clauseAtWord? 0 clauses = none := by
  have hkey : byteLength (.replicate maxLength 'k') = maxLength := by
    rw [byteLength_replicate, show 'k'.utf8Size = 1 by decide, Nat.mul_one]
  have hvalue : byteLength (.replicate maxLength 'v') = maxLength := by
    rw [byteLength_replicate, show 'v'.utf8Size = 1 by decide, Nat.mul_one]
  -- the two texts are too long to be computed, and only their lengths matter
  generalize List.replicate maxLength 'k' = key at hkey ⊢
  generalize List.replicate maxLength 'v' = value at hvalue ⊢
  intro longest clauses
  have hbody : (Clause.body "é" maxOffset).InMemory := ⟨by decide, by decide, by decide⟩
  have hlongest : longest.InMemory :=
    ⟨Nat.le_of_eq hkey, Nat.le_of_eq hvalue, show 1 ≤ maxOffset by decide⟩
  have h : ∀ c ∈ clauses, c.InMemory :=
    List.forall_mem_cons.mpr ⟨hbody, List.forall_mem_singleton.mpr hlongest⟩
  have hsize : byteLength longest.text = maxOffset := by
    rw [Clause.byteLength_text_field, hkey, hvalue, maxLength_add_maxLength]
  have hspot : longest.spot.stop = 1 + maxOffset := congrArg (1 + ·) hsize
  obtain ⟨_, hword, hstop, _⟩ := clauseAtWord?_exact.1 longest hlongest
  rw [hsize] at hword hstop
  have hfound := fun p => (clauseAtWord?_exact.2 clauses p h).2
  have hbefore (p : Nat) (hp : p < maxOffset) : ¬ (Clause.body "é" maxOffset).Spans p :=
    fun hspans => Nat.not_le.mpr hp hspans.1
  refine ⟨h, hword, ?_, ((hfound _).1 0).mpr ?_, ((hfound _).1 1).mpr ?_, (hfound _).2.mpr ?_⟩
  · rw [hstop]
    exact Nat.min_eq_right (Nat.le_add_left _ _)
  · refine ⟨_, rfl, ?_, nofun⟩
    rw [toNat_ofNat_of_le (Nat.le_refl _)]
    exact ⟨Nat.le_refl _, Nat.le_add_right _ _⟩
  · refine ⟨longest, rfl, ⟨show 1 ≤ 2 by decide, ?_⟩, ?_⟩
    · rw [hspot]
      decide
    · exact List.forall_mem_singleton.mpr (hbefore _ (by decide))
  · have hpast : ¬ longest.Spans 0 := fun hspans => Nat.not_succ_le_zero 0 hspans.1
    exact List.forall_mem_cons.mpr ⟨hbefore _ (by decide), List.forall_mem_singleton.mpr hpast⟩

end LogFilter
