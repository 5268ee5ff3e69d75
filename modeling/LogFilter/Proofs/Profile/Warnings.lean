import LogFilter.Profile
import Mathlib.Data.List.Basic

/-!
# Warnings about keys

A profile is warned about for each of its entries that is not a valid key. Then each spelling of a
key that the profile does not know is warned about, once and where it occurs first
(`warnings_at_first_occurrences`). One pass over the clauses finds these warnings, and has nothing
to remember but the keys that it has warned about.
-/

namespace LogFilter

namespace Profile

/-- Whether a key is none of the keys of the profile, in whatever case. -/
def Unknown (p : Profile) (name : Text) : Prop := ∀ known ∈ p.knownKeys, lower known ≠ lower name

theorem knows_eq_false_iff {p : Profile} {name : Text} : p.knows name = false ↔ p.Unknown name := by
  simp [knows, Unknown]

theorem hasKeyHints_iff {p : Profile} : p.hasKeyHints = true ↔ p.knownKeys ≠ [] := by
  simp [hasKeyHints]

theorem rejects_iff {p : Profile} {c : Clause} :
    p.rejects c = true ↔ ∃ name, c.key = .field name ∧ p.Unknown name := by
  obtain ⟨key, value, start⟩ := c
  cases key with
  | body => simp [rejects]
  | field name => simp [rejects, knows_eq_false_iff]

/-! ## One pass -/

/-- The clauses that one pass warns about after it has warned about the keys `seen`. -/
def warnPass (p : Profile) (seen : List Key) : List Clause → List Clause
  | [] => []
  | c :: clauses =>
    if p.rejects c = true ∧ c.key ∉ seen then c :: p.warnPass (c.key :: seen) clauses
    else p.warnPass seen clauses

/-- The pass leaves out later clauses with the same key as it comes to them, `firstOfKeys` all of
them at once. -/
theorem warnPass_eq (p : Profile) (seen : List Key) (clauses : List Clause) :
    p.warnPass seen clauses =
      (firstOfKeys (clauses.filter p.rejects)).filter (·.key ∉ seen) := by
  induction clauses generalizing seen with
  | nil => rfl
  | cons c clauses ih =>
      by_cases hc : p.rejects c = true
      · rw [List.filter_cons_of_pos hc, firstOfKeys]
        by_cases hseen : c.key ∈ seen
        · rw [warnPass, if_neg (fun h => h.2 hseen), ih, List.filter_cons_of_neg (by simpa),
            List.filter_filter]
          -- What `firstOfKeys` leaves out for `c` has a key that is seen, and goes anyway.
          refine List.filter_congr fun d _ => ?_
          by_cases hd : d.key = c.key <;> simp [hd, hseen]
        · rw [warnPass, if_pos ⟨hc, hseen⟩, ih, List.filter_cons_of_pos (by simpa),
            List.filter_filter]
          refine congrArg (List.cons c) (List.filter_congr fun d _ => ?_)
          by_cases hd : d.key = c.key <;> simp [hd]
      · rw [warnPass, if_neg (fun h => hc h.1), ih, List.filter_cons_of_neg hc]

/-! ## First occurrences -/

/-- Whether the clause at an index is the first with a key that the profile does not know. -/
def FirstUnknown (p : Profile) (clauses : List Clause) (i : Nat) (name : Text) : Prop :=
  (∃ c ∈ clauses[i]?, c.key = .field name) ∧ p.Unknown name ∧
    ∀ j < i, ∀ d ∈ clauses[j]?, d.key ≠ .field name

variable {p : Profile} {c : Clause} {clauses : List Clause} {i : Nat} {name : Text}

theorem firstUnknown_zero :
    p.FirstUnknown (c :: clauses) 0 name ↔ c.key = .field name ∧ p.Unknown name := by
  simp [FirstUnknown]

theorem firstUnknown_succ :
    p.FirstUnknown (c :: clauses) (i + 1) name ↔
      c.key ≠ .field name ∧ p.FirstUnknown clauses i name := by
  constructor
  · rintro ⟨hclause, hname, hfirst⟩
    refine ⟨hfirst 0 (Nat.succ_pos i) c rfl, hclause, hname, ?_⟩
    intro j hj
    exact hfirst (j + 1) (Nat.succ_lt_succ hj)
  · rintro ⟨hhead, hclause, hname, hfirst⟩
    refine ⟨hclause, hname, ?_⟩
    intro j hj d hd
    cases j with
    | zero =>
        obtain rfl : c = d := Option.some.inj hd
        exact hhead
    | succ j => exact hfirst j (Nat.lt_of_succ_lt_succ hj) d hd

/-- A key that occurs at all has a first occurrence. -/
theorem exists_firstUnknown (hname : p.Unknown name) (hc : c ∈ clauses)
    (hkey : c.key = .field name) : ∃ i, p.FirstUnknown clauses i name := by
  induction clauses with
  | nil => cases hc
  | cons d clauses ih =>
      by_cases hd : d.key = .field name
      · exact ⟨0, firstUnknown_zero.mpr ⟨hd, hname⟩⟩
      · have hmem : c ∈ clauses := by
          rcases List.mem_cons.mp hc with rfl | hmem
          · exact (hd hkey).elim
          · exact hmem
        obtain ⟨i, hi⟩ := ih hmem
        exact ⟨i + 1, firstUnknown_succ.mpr ⟨hd, hi⟩⟩

/-- Whether an index holds the first occurrence of an unknown key that is not among `seen`. -/
def Opens (p : Profile) (seen : List Key) (clauses : List Clause) (i : Nat) : Prop :=
  ∃ name, p.FirstUnknown clauses i name ∧ .field name ∉ seen

theorem opens_zero {seen : List Key} :
    p.Opens seen (c :: clauses) 0 ↔ p.rejects c = true ∧ c.key ∉ seen := by
  rw [Opens, rejects_iff]
  constructor
  · rintro ⟨name, hfirst, hseen⟩
    obtain ⟨hkey, hname⟩ := firstUnknown_zero.mp hfirst
    exact ⟨⟨name, hkey, hname⟩, hkey ▸ hseen⟩
  · rintro ⟨⟨name, hkey, hname⟩, hseen⟩
    exact ⟨name, firstUnknown_zero.mpr ⟨hkey, hname⟩, hkey ▸ hseen⟩

/-- Behind a clause, its key counts as seen. -/
theorem opens_succ {seen : List Key} :
    p.Opens seen (c :: clauses) (i + 1) ↔ p.Opens (c.key :: seen) clauses i := by
  simp only [Opens, firstUnknown_succ, List.mem_cons, not_or]
  constructor
  · rintro ⟨name, ⟨hhead, hfirst⟩, hseen⟩
    exact ⟨name, hfirst, Ne.symm hhead, hseen⟩
  · rintro ⟨name, hfirst, hhead, hseen⟩
    exact ⟨name, ⟨Ne.symm hhead, hfirst⟩, hseen⟩

/-- A key that is known or has been seen need not be remembered. -/
theorem opens_cons_seen {seen : List Key} (hc : ¬ (p.rejects c = true ∧ c.key ∉ seen)) :
    p.Opens (c.key :: seen) clauses i ↔ p.Opens seen clauses i := by
  constructor
  · rintro ⟨name, hfirst, hseen⟩
    exact ⟨name, hfirst, fun h => hseen (List.mem_cons_of_mem _ h)⟩
  · rintro ⟨name, hfirst, hseen⟩
    refine ⟨name, hfirst, ?_⟩
    intro h
    rcases List.mem_cons.mp h with hkey | h
    · exact hc ⟨rejects_iff.mpr ⟨name, hkey.symm, hfirst.2.1⟩, hkey ▸ hseen⟩
    · exact hseen h

theorem filterMap_getElem?_cons (c : Clause) (clauses : List Clause) (indices : List Nat) :
    (indices.map (· + 1)).filterMap ((c :: clauses)[·]?) = indices.filterMap (clauses[·]?) := by
  simp [List.filterMap_map]

/-- The pass stops at the first occurrences of the unknown keys that it has not seen. -/
theorem exists_firsts_warnPass (p : Profile) (seen : List Key) (clauses : List Clause) :
    ∃ firsts : List Nat, firsts.Pairwise (· < ·) ∧ (∀ i, i ∈ firsts ↔ p.Opens seen clauses i) ∧
      p.warnPass seen clauses = firsts.filterMap (clauses[·]?) := by
  induction clauses generalizing seen with
  | nil => exact ⟨[], .nil, by simp [Opens, FirstUnknown], rfl⟩
  | cons c clauses ih =>
      -- Whether the pass stops at `c` or not, indices into the rest move up by one.
      by_cases hc : p.rejects c = true ∧ c.key ∉ seen
      · obtain ⟨firsts, hsorted, hmem, hpass⟩ := ih (c.key :: seen)
        refine ⟨0 :: firsts.map (· + 1), by simpa [List.pairwise_map] using hsorted, ?_, ?_⟩
        · intro i
          cases i with
          | zero => simpa [opens_zero] using hc
          | succ i => simp [opens_succ, hmem]
        · rw [warnPass, if_pos hc, hpass, ← filterMap_getElem?_cons c]
          rfl
      · obtain ⟨firsts, hsorted, hmem, hpass⟩ := ih seen
        refine ⟨firsts.map (· + 1), by simpa [List.pairwise_map] using hsorted, ?_, ?_⟩
        · intro i
          cases i with
          | zero => simpa [opens_zero] using hc
          | succ i => simp [opens_succ, opens_cons_seen hc, hmem]
        · rw [warnPass, if_neg hc, hpass, filterMap_getElem?_cons]

theorem mem_warnPass_nil :
    c ∈ p.warnPass [] clauses ↔ ∃ i name, clauses[i]? = some c ∧ p.FirstUnknown clauses i name := by
  obtain ⟨firsts, _, hmem, hpass⟩ := p.exists_firsts_warnPass [] clauses
  rw [hpass, List.mem_filterMap]
  constructor
  · rintro ⟨i, hi, hc⟩
    obtain ⟨name, hfirst, _⟩ := (hmem i).mp hi
    exact ⟨i, name, hc, hfirst⟩
  · rintro ⟨i, name, hc, hfirst⟩
    exact ⟨i, (hmem i).mpr ⟨name, hfirst, List.not_mem_nil⟩, hc⟩

/-- The pass stops at each unknown key of a field, whatever its name, and at no other key. -/
theorem exists_mem_warnPass_iff :
    (∃ c ∈ p.warnPass [] clauses, c.key.text = name) ↔
      p.Unknown name ∧ ∃ c ∈ clauses, c.key = .field name := by
  constructor
  · rintro ⟨c, hc, rfl⟩
    obtain ⟨i, name, hi, ⟨d, hd, hkey⟩, hname, _⟩ := mem_warnPass_nil.mp hc
    obtain rfl : d = c := Option.some.inj (hd.symm.trans hi)
    have htext : d.key.text = name := by rw [hkey, Key.text]
    rw [htext]
    exact ⟨hname, d, List.mem_of_getElem? hi, hkey⟩
  · rintro ⟨hname, c, hc, hkey⟩
    obtain ⟨i, hfirst⟩ := exists_firstUnknown hname hc hkey
    obtain ⟨d, hd, hkey⟩ := hfirst.1
    exact ⟨d, mem_warnPass_nil.mpr ⟨i, name, hd, hfirst⟩, by rw [hkey, Key.text]⟩

/-! ## Warnings -/

/-- The warning about the key of a clause. -/
def warn (p : Profile) (c : Clause) : Warning := .unknownKey c.key.text c.start p.knownKeys

end Profile

theorem warnings_eq (p : Profile) (clauses : List Clause) :
    warnings p clauses = (p.knownKeys.filter (!isValidKey ·)).map .untypeable ++
      if p.knownKeys ≠ [] then (p.warnPass [] clauses).map p.warn else [] := by
  have hpass : p.warnPass [] clauses = firstOfKeys (clauses.filter p.rejects) := by
    simp [Profile.warnPass_eq]
  rw [warnings, hpass]
  simp only [Profile.hasKeyHints_iff]
  split
  · rfl
  · rw [List.append_nil]

theorem untypeable_mem_warnings {p : Profile} {clauses : List Clause} {name : Text} :
    .untypeable name ∈ warnings p clauses ↔ name ∈ p.knownKeys ∧ isValidKey name = false := by
  simp [warnings_eq, Profile.warn]

/-- A key is warned about if it is unknown and occurs. -/
theorem unknownKey_mem_warnings {p : Profile} {clauses : List Clause} {name : Text} :
    (∃ offset, .unknownKey name offset p.knownKeys ∈ warnings p clauses) ↔
      p.knownKeys ≠ [] ∧ p.Unknown name ∧ ∃ c ∈ clauses, c.key = .field name := by
  rw [← Profile.exists_mem_warnPass_iff, warnings_eq]
  by_cases hp : p.knownKeys = [] <;> simp [hp, Profile.warn]

/-- Clauses of the body have no key to warn about. -/
theorem warnings_filter_field (p : Profile) (clauses : List Clause) :
    warnings p (clauses.filter (!·.isBody)) = warnings p clauses := by
  have hrejects : ∀ c ∈ clauses, (p.rejects c && !c.isBody) = p.rejects c := by
    intro c _
    obtain ⟨key, value, start⟩ := c
    cases key <;> simp [Profile.rejects, Clause.isBody]
  rw [warnings, warnings, List.filter_filter, List.filter_congr hrejects]

/-- Each entry of the profile that is not a valid key is warned about, in order. Behind that, if the
profile has keys, each first occurrence of an unknown key is, from left to right. -/
theorem warnings_at_first_occurrences (p : Profile) (clauses : List Clause) :
    (∃ firsts : List Nat, firsts.Pairwise (· < ·) ∧
      (∀ i, i ∈ firsts ↔ p.knownKeys ≠ [] ∧ ∃ name, p.FirstUnknown clauses i name) ∧
      warnings p clauses = (p.knownKeys.filter (!isValidKey ·)).map .untypeable ++
        (firsts.filterMap (clauses[·]?)).map p.warn) ∧
      (∀ name, (∃ offset, .unknownKey name offset p.knownKeys ∈ warnings p clauses) ↔
        p.knownKeys ≠ [] ∧ p.Unknown name ∧ ∃ c ∈ clauses, c.key = .field name) ∧
      warnings p (clauses.filter (!·.isBody)) = warnings p clauses ∧
      (p.knownKeys = [] → warnings p clauses = []) := by
  refine ⟨?_, fun _ => unknownKey_mem_warnings, warnings_filter_field p clauses, ?_⟩
  · by_cases hp : p.knownKeys = []
    · exact ⟨[], .nil, by simp [hp], by simp [warnings_eq, hp]⟩
    · obtain ⟨firsts, hsorted, hmem, hpass⟩ := p.exists_firsts_warnPass [] clauses
      refine ⟨firsts, hsorted, ?_, ?_⟩
      · simpa [hp, Profile.Opens] using hmem
      · rw [warnings_eq, if_pos hp, hpass]
  · intro hp
    simp [warnings_eq, hp]

/-- Spellings count one by one, known keys count in any case, and a field may be called like the
body. -/
theorem warnings_at_first_occurrences_reserved :
    let p : Profile := ⟨"logs", ["level", "service-name", "ΟΔΟΣ"], none⟩
    let clauses : List Clause := [.body "lvl" 0, .field "lvl" "1" 4, .field "LEVEL" "2" 10,
      .field "Lvl" [] 18, .field "οδος" "3" 23, .field "lvl" "4" 34, .field Key.bodyName "5" 40]
    warnings p clauses = [.untypeable "service-name", .unknownKey "lvl" 4 p.knownKeys,
        .unknownKey "Lvl" 18 p.knownKeys, .unknownKey Key.bodyName 40 p.knownKeys] ∧
      (∃ offset, .unknownKey Key.bodyName offset p.knownKeys ∈ warnings p clauses) ∧
      Profile.base.knownKeys = [] ∧ warnings .base clauses = [] := by
  intro p clauses
  have hname : p.Unknown Key.bodyName := Profile.knows_eq_false_iff.mp (by decide +kernel)
  have hmem : Clause.field Key.bodyName "5" 40 ∈ clauses := by decide
  obtain ⟨_, hnames, _, _⟩ := warnings_at_first_occurrences p clauses
  obtain ⟨_, _, _, hnone⟩ := warnings_at_first_occurrences .base clauses
  refine ⟨by decide +kernel, ?_, rfl, hnone rfl⟩
  exact (hnames Key.bodyName).mpr ⟨List.cons_ne_nil _ _, hname, _, hmem, rfl⟩

end LogFilter
