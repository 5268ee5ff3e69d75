import LogFilter.Proofs.Query.TypedKeys
import LogFilter.Proofs.Text.LowerCase

/-!
# Entries that are no valid keys

An entry of a profile that is not a valid key makes a typed key known all the same, if the two have
one lower case: a dotted `i` does so for `İ`. All other such entries can be removed, and the same
keys are warned about (`unknownKeys_restrict`).
-/

namespace LogFilter

/-! ## Keys that are warned about -/

/-- The key that a warning calls unknown, and where it stands. -/
def Warning.unknown? : Warning → Option (Text × Nat)
  | untypeable _ => none
  | unknownKey key offset _ => some (key, offset)

/-- The keys that are warned about as unknown, each with its offset. -/
def unknownKeys (p : Profile) (clauses : List Clause) : List (Text × Nat) :=
  (warnings p clauses).filterMap Warning.unknown?

namespace Profile

/-- The profile without the entries that fail a test. -/
def restrict (p : Profile) (kept : Text → Bool) : Profile :=
  { p with knownKeys := p.knownKeys.filter kept }

variable {p q : Profile} {kept : Text → Bool} {name : Text}

theorem unknown_restrict_iff :
    (p.restrict kept).Unknown name ↔
      ∀ known ∈ p.knownKeys, kept known = true → lower known ≠ lower name := by
  simp [Unknown, restrict]

/-- What a pass warns about depends on nothing but which of the keys are unknown. -/
theorem warnPass_congr {clauses : List Clause} (seen : List Key)
    (h : ∀ c ∈ clauses, ∀ name, c.key = .field name → (p.Unknown name ↔ q.Unknown name)) :
    p.warnPass seen clauses = q.warnPass seen clauses := by
  have hrejects : ∀ c ∈ clauses, p.rejects c = q.rejects c := by
    intro c hc
    rw [Bool.eq_iff_iff, rejects_iff, rejects_iff]
    exact exists_congr fun name => and_congr_right (h c hc name)
  rw [warnPass_eq, warnPass_eq, List.filter_congr hrejects]

end Profile

section

variable {p q : Profile} {clauses : List Clause} {name : Text}

theorem unknownKeys_eq (hp : p.knownKeys ≠ []) :
    unknownKeys p clauses = (p.warnPass [] clauses).map fun c => (c.key.text, c.start) := by
  have hnone (keys : List Text) :
      (keys.map Warning.untypeable).filterMap Warning.unknown? = [] := by
    simp [Warning.unknown?]
  rw [unknownKeys, warnings_eq, if_pos hp, List.filterMap_append, hnone, List.nil_append,
    List.filterMap_map]
  have hwarn : Warning.unknown? ∘ p.warn = some ∘ fun c => (c.key.text, c.start) := rfl
  rw [hwarn, List.filterMap_eq_map]

theorem unknownKeys_congr (hp : p.knownKeys ≠ []) (hq : q.knownKeys ≠ []) {s : Text}
    (h : ∀ name, Typeable name → (p.Unknown name ↔ q.Unknown name)) :
    unknownKeys p (parse s) = unknownKeys q (parse s) := by
  have hpass : p.warnPass [] (parse s) = q.warnPass [] (parse s) :=
    Profile.warnPass_congr [] fun c hc name hkey => h name ⟨s, c, hc, hkey⟩
  rw [unknownKeys_eq hp, unknownKeys_eq hq, hpass]

/-- A key before a colon is warned about if it is unknown. -/
theorem unknownKeys_key_colon (hp : p.knownKeys ≠ []) (hname : Typeable name) :
    unknownKeys p (parse (name ++ [':'])) = [] ↔ ¬ p.Unknown name := by
  have hrejects : p.rejects (.field name [] 0) = true ↔ p.Unknown name := by
    simp [Profile.rejects_iff, Clause.field]
  rw [unknownKeys_eq hp, parse_key_colon (typeable_iff_isKey.mp hname), List.map_eq_nil_iff,
    Profile.warnPass_eq, ← hrejects]
  by_cases h : p.rejects (.field name [] 0) = true
  · simp [h, firstOfKeys]
  · simp [h, firstOfKeys]

end

theorem typeable_lower_iff {s : Text} :
    (∃ name, Typeable name ∧ lower name = lower s) ↔ spellsKey s = true := by
  simp only [typeable_iff_isKey, exists_isKey_lower_eq_iff]

/-- A profile has a valid key. Its entries that are no valid keys, and do not have the lower case of
a key that can be typed, can be removed: the same keys of each query are unknown, at the same
offsets. All entries that are no valid keys can be removed exactly if each of them with the lower
case of a key that can be typed has that of a valid key of the profile. -/
theorem unknownKeys_restrict (p : Profile) (hp : ∃ key ∈ p.knownKeys, isValidKey key = true) :
    (∀ s, unknownKeys (p.restrict fun key => isValidKey key || spellsKey key) (parse s) =
        unknownKeys p (parse s)) ∧
      ((∀ s, unknownKeys (p.restrict isValidKey) (parse s) = unknownKeys p (parse s)) ↔
        ∀ entry ∈ p.knownKeys, isValidKey entry = false → spellsKey entry = true →
          ∃ key ∈ p.knownKeys, isValidKey key = true ∧ lower key = lower entry) ∧
      ∀ entry, spellsKey entry = true ↔ ∃ name, Typeable name ∧ lower name = lower entry := by
  obtain ⟨valid, hmem, hvalid⟩ := hp
  have hentries : p.knownKeys ≠ [] := List.ne_nil_of_mem hmem
  refine ⟨fun s => ?_, ⟨fun h entry hentry _ hspells => ?_, fun h s => ?_⟩,
    fun entry => typeable_lower_iff.symm⟩
  · have hkept : (p.restrict fun key => isValidKey key || spellsKey key).knownKeys ≠ [] :=
      List.ne_nil_of_mem (List.mem_filter.mpr ⟨hmem, by simp [hvalid]⟩)
    refine unknownKeys_congr hkept hentries fun name hname => ?_
    rw [Profile.unknown_restrict_iff]
    refine ⟨fun h known hknown heq => ?_, fun h known hknown _ => h known hknown⟩
    -- an entry with the lower case of a typed key is kept
    have hspells : spellsKey known = true := typeable_lower_iff.mp ⟨name, hname, heq.symm⟩
    exact h known hknown (by simp [hspells]) heq
  · have hkept : (p.restrict isValidKey).knownKeys ≠ [] :=
      List.ne_nil_of_mem (List.mem_filter.mpr ⟨hmem, hvalid⟩)
    obtain ⟨name, hname, hlower⟩ := typeable_lower_iff.mpr hspells
    have hknown : ¬ p.Unknown name := fun hunknown => hunknown entry hentry hlower.symm
    have hnone := (unknownKeys_key_colon hentries hname).mpr hknown
    rw [← h, unknownKeys_key_colon hkept hname, Profile.unknown_restrict_iff] at hnone
    by_contra hother
    refine hnone fun known hmem hvalid heq => hother ⟨known, hmem, hvalid, ?_⟩
    rw [heq, hlower]
  · have hkept : (p.restrict isValidKey).knownKeys ≠ [] :=
      List.ne_nil_of_mem (List.mem_filter.mpr ⟨hmem, hvalid⟩)
    refine unknownKeys_congr hkept hentries fun name hname => ?_
    rw [Profile.unknown_restrict_iff]
    refine ⟨fun hunknown known hknown heq => ?_, fun h known hknown _ => h known hknown⟩
    cases hkey : isValidKey known with
    | true => exact hunknown known hknown hkey heq
    | false =>
        have hspells : spellsKey known = true := typeable_lower_iff.mp ⟨name, hname, heq.symm⟩
        obtain ⟨key, hmem, hvalid, hlower⟩ := h known hknown hkey hspells
        exact hunknown key hmem hvalid (hlower.trans heq)

/-- A dotted capital `I` is kept for the keys with `İ`, and a key with a hyphen goes. -/
theorem unknownKeys_restrict_dotted_entry :
    let p : Profile := ⟨"logs", ["I\u0307D", "service-name", "level"], none⟩
    let kept : Text → Bool := fun key => isValidKey key || spellsKey key
    (∃ key ∈ p.knownKeys, isValidKey key = true) ∧
      (p.restrict kept).knownKeys = ["I\u0307D", "level"] ∧
      (∀ s, unknownKeys (p.restrict kept) (parse s) = unknownKeys p (parse s)) ∧
      ¬ ∀ s, unknownKeys (p.restrict isValidKey) (parse s) = unknownKeys p (parse s) := by
  intro p kept
  have hvalid : ∃ key ∈ p.knownKeys, isValidKey key = true := by decide +kernel
  obtain ⟨hsame, hall, -⟩ := unknownKeys_restrict p hvalid
  refine ⟨hvalid, by decide +kernel, hsame, fun h => ?_⟩
  have hspells := hall.mp h "I\u0307D" (.head _) (by decide +kernel) (by decide +kernel)
  revert hspells
  decide +kernel

/-- A dotted `i` is no valid key, and yet `İ` is known for it. -/
theorem unknownKeys_dotted_i :
    let p : Profile := ⟨"logs", ["i\u0307", "x"], none⟩
    (∃ key ∈ p.knownKeys, isValidKey key = true) ∧
      unknownKeys (p.restrict isValidKey) (parse "İ:1") = [("İ".toList, 0)] ∧
      unknownKeys p (parse "İ:1") ≠ unknownKeys (p.restrict isValidKey) (parse "İ:1") := by
  decide +kernel

end LogFilter
