import LogFilter.Proofs.Query.Lexeme
import LogFilter.Text.LowerCase

/-!
# Lower case of keys

Lowering a text leaves no capital: each character of the result is its own lower case. Key
characters are lowered to key characters, but for `İ`, which becomes an `i` and a dot above. So a
text is the lower case of some key exactly if each of its characters is a key character, or a dot
above right behind an `i` (`exists_isKey_lower_eq_iff`).
-/

namespace LogFilter

/-! ## Ranges of capitals -/

namespace CapitalRange

/-- The code point that a range moves its code point `n` to. -/
def lowered (r : CapitalRange) (n : Nat) : Nat :=
  match r.shift with
  | .ofNat k => n + k
  | .negSucc k => n - (k + 1)

/-- Whether the lower cases of a range are apart from another range. Where both reach over each
other, one has the even and the other the odd code points. -/
def isApart (r r' : CapitalRange) : Bool :=
  Nat.ble (r.lowered r.last + 1) r'.first || Nat.ble (r'.last + 1) (r.lowered r.first) ||
    (r.first == r.last || r.step == 2) && r'.step == 2 && (r.lowered r.first + r'.first) % 2 == 1

/-- Whether the lower cases of a range are within a range of letters. -/
def isWithin (r : CapitalRange) (letters : Nat × Nat) : Bool :=
  Nat.ble letters.1 (r.lowered r.first) && Nat.ble (r.lowered r.last) letters.2

/-- The code points of a range. -/
def codes (r : CapitalRange) : List Nat :=
  (List.range' r.first (r.last + 1 - r.first)).filter r.contains

variable {r r' : CapitalRange} {n : Nat}

theorem toNat_add_shift (r : CapitalRange) (n : Nat) : (n + r.shift).toNat = r.lowered n := by
  cases h : r.shift with
  | ofNat k => simp only [lowered, h, Int.ofNat_eq_natCast]; omega
  | negSucc k => simp only [lowered, h]; omega

theorem contains_iff :
    r.contains n = true ↔ r.first ≤ n ∧ n ≤ r.last ∧ (n - r.first) % r.step = 0 := by
  simp [contains, and_assoc]

theorem mem_codes (h : r.contains n = true) : n ∈ r.codes := by
  obtain ⟨hfirst, hlast, _⟩ := contains_iff.mp h
  refine List.mem_filter.mpr ⟨List.mem_range'_1.mpr ⟨hfirst, ?_⟩, h⟩
  omega

theorem lowered_bounds (h : r.contains n = true) :
    r.lowered r.first ≤ r.lowered n ∧ r.lowered n ≤ r.lowered r.last := by
  obtain ⟨hfirst, hlast, _⟩ := contains_iff.mp h
  unfold lowered
  split <;> omega

theorem not_contains_of_isApart (h : r.isApart r' = true) (hn : r.contains n = true)
    (hpos : 0 < r.lowered r.first) : ¬ r'.contains (r.lowered n) = true := by
  obtain ⟨hfirst, hlast⟩ := lowered_bounds hn
  simp only [isApart, Bool.or_eq_true, Bool.and_eq_true, beq_iff_eq, Nat.ble_eq] at h
  intro hn'
  obtain ⟨hfirst', hlast', hstep'⟩ := contains_iff.mp hn'
  obtain ⟨hle, hle', hstep⟩ := contains_iff.mp hn
  rcases h with (h | h) | ⟨⟨h, htwo⟩, hodd⟩
  · omega
  · omega
  · have hparity : (r.lowered n + r.lowered r.first) % 2 = 0 := by
      rcases h with h | h
      · have heq : n = r.first := by omega
        rw [heq]
        omega
      · rw [h] at hstep
        unfold lowered at hpos ⊢
        split at hpos <;> omega
    rw [htwo] at hstep'
    omega

end CapitalRange

/-! The tables are compared range by range. -/

theorem isApart_capitalRanges :
    (capitalRanges.all fun r => capitalRanges.all r.isApart) = true := by
  decide +kernel

/-- The lower cases of a range are within one range of letters, but for two ranges of capitals. -/
theorem letters_capitalRanges :
    (capitalRanges.all fun r => (wordRanges ++ recentRanges).any r.isWithin ||
      r.codes.all fun n => isKeyChar (Char.ofNat (r.lowered n))) = true := by
  decide +kernel

/-- Of the lower cases of capitals, `k` alone is ASCII, and all of them are characters. -/
theorem bounds_capitalRanges : ∀ r ∈ capitalRanges,
    (0x80 ≤ r.lowered r.first ∨ r.lowered r.first = 'k'.toNat ∧ r.lowered r.last = 'k'.toNat) ∧
      (r.lowered r.last < 'İ'.toNat ∨ 'İ'.toNat < r.lowered r.first) ∧
      (r.lowered r.last < 0xD800 ∨ 0xDFFF < r.lowered r.first ∧ r.lowered r.last < 0x110000) := by
  decide +kernel

theorem wordRanges_beyond_ascii : ∀ w ∈ wordRanges ++ recentRanges, 0x80 ≤ w.1 := by
  decide +kernel

/-! ## Characters -/

variable {c d : Char}

/-- A character that is its own lower case wherever it stands. -/
def IsSmall (c : Char) : Prop := c ≠ 'Σ' ∧ lowerChar c = [c]

theorem lowerChar_of_contains {r : CapitalRange} (hascii : ¬ c.toNat < 0x80) (hc : c ≠ 'İ')
    (hfind : capitalRanges.find? (·.contains c.toNat) = some r) :
    lowerChar c = [Char.ofNat (r.lowered c.toNat)] := by
  rw [lowerChar, if_neg hascii, if_neg hc, hfind, ← r.toNat_add_shift]

theorem lowerChar_of_not_contains (hascii : ¬ c.toNat < 0x80) (hc : c ≠ 'İ')
    (hfind : capitalRanges.find? (·.contains c.toNat) = none) : lowerChar c = [c] := by
  rw [lowerChar, if_neg hascii, if_neg hc, hfind]

/-- Lowering moves a capital to the character with the code point that the range tells. -/
theorem toNat_lowered {r : CapitalRange} {n : Nat} (hr : r ∈ capitalRanges)
    (hn : r.contains n = true) : (Char.ofNat (r.lowered n)).toNat = r.lowered n := by
  obtain ⟨-, -, hvalid⟩ := bounds_capitalRanges r hr
  obtain ⟨hfirst, hlast⟩ := CapitalRange.lowered_bounds hn
  have hchar : (r.lowered n).isValidChar := by
    rcases hvalid with h | h
    · exact .inl (by omega)
    · exact .inr (by omega)
  rw [Char.ofNat, dif_pos hchar]
  rfl

theorem isKeyChar_of_inRanges (hascii : 0x80 ≤ c.toNat)
    (h : inRanges (wordRanges ++ recentRanges) c.toNat = true) : isKeyChar c = true := by
  rw [inRanges, List.any_append, Bool.or_eq_true] at h
  have hnot : ¬ c.toNat < 0x80 := Nat.not_lt.mpr hascii
  rcases h with h | h
  · simp [isKeyChar, isDeclarable, isLetterOrDigit, hnot, inRanges, h]
  · simp [isKeyChar, inRanges, h]

/-! ### ASCII -/

instance (c : Char) : Decidable (IsSmall c) := inferInstanceAs (Decidable (_ ∧ _))

theorem ascii_lowered : ∀ n < 0x80, IsSmall (Char.ofNat n).toLower ∧
    (isKeyChar (Char.ofNat n) = true → isKeyChar (Char.ofNat n).toLower = true) := by
  decide +kernel

theorem lowerChar_of_ascii (hascii : c.toNat < 0x80) :
    lowerChar c = [c.toLower] ∧ IsSmall c.toLower ∧
      (isKeyChar c = true → isKeyChar c.toLower = true) := by
  have h := ascii_lowered c.toNat hascii
  rw [Char.ofNat_toNat] at h
  exact ⟨if_pos hascii, h⟩

/-! ### Capitals -/

/-- Sigma is a capital. -/
theorem ne_sigma_of_find? (h : capitalRanges.find? (·.contains c.toNat) = none) : c ≠ 'Σ' := by
  rintro rfl
  revert h
  decide +kernel

theorem isSmall_lowered {r : CapitalRange} {n : Nat} (hr : r ∈ capitalRanges)
    (hn : r.contains n = true) : IsSmall (Char.ofNat (r.lowered n)) := by
  obtain ⟨hascii, hdot, -⟩ := bounds_capitalRanges r hr
  obtain ⟨hfirst, hlast⟩ := CapitalRange.lowered_bounds hn
  have htoNat := toNat_lowered hr hn
  rcases hascii with hascii | ⟨hk, hk'⟩
  · have hnone : capitalRanges.find? (·.contains (Char.ofNat (r.lowered n)).toNat) = none := by
      refine List.find?_eq_none.mpr fun r' hr' => ?_
      rw [htoNat]
      have hapart := List.all_eq_true.mp (List.all_eq_true.mp isApart_capitalRanges r hr) r' hr'
      exact CapitalRange.not_contains_of_isApart hapart hn (by omega)
    have hnotAscii : ¬ (Char.ofNat (r.lowered n)).toNat < 0x80 := by omega
    have hne : Char.ofNat (r.lowered n) ≠ 'İ' := fun h => by
      rw [h] at htoNat
      omega
    exact ⟨ne_sigma_of_find? hnone, lowerChar_of_not_contains hnotAscii hne hnone⟩
  · have hletter : r.lowered n = 'k'.toNat := by omega
    rw [hletter]
    decide

theorem isKeyChar_lowered {r : CapitalRange} {n : Nat} (hr : r ∈ capitalRanges)
    (hn : r.contains n = true) : isKeyChar (Char.ofNat (r.lowered n)) = true := by
  obtain ⟨hfirst, hlast⟩ := CapitalRange.lowered_bounds hn
  have h := List.all_eq_true.mp letters_capitalRanges r hr
  rcases (Bool.or_eq_true_iff ..).mp h with h | h
  · obtain ⟨w, hw, hwithin⟩ := List.any_eq_true.mp h
    simp only [CapitalRange.isWithin, Bool.and_eq_true, Nat.ble_eq] at hwithin
    have hbeyond := wordRanges_beyond_ascii w hw
    refine isKeyChar_of_inRanges (by rw [toNat_lowered hr hn]; omega) ?_
    rw [inRanges, toNat_lowered hr hn]
    refine List.any_eq_true.mpr ⟨w, hw, ?_⟩
    simp only [Bool.and_eq_true, decide_eq_true_eq]
    omega
  · exact List.all_eq_true.mp h n (CapitalRange.mem_codes hn)

/-! ### Any character -/

theorem isSmall_of_mem_lowerChar (h : d ∈ lowerChar c) : IsSmall d := by
  by_cases hascii : c.toNat < 0x80
  · obtain ⟨hlower, hsmall, -⟩ := lowerChar_of_ascii hascii
    rw [hlower] at h
    rwa [List.mem_singleton.mp h]
  · by_cases hdot : c = 'İ'
    · have hlower : lowerChar 'İ' = ['i', '\u0307'] := by decide +kernel
      rw [hdot, hlower] at h
      simp only [List.mem_cons, List.not_mem_nil, or_false] at h
      rcases h with rfl | rfl <;> decide +kernel
    · cases hfind : capitalRanges.find? (·.contains c.toNat) with
      | some r =>
          rw [lowerChar_of_contains hascii hdot hfind] at h
          rw [List.mem_singleton.mp h]
          exact isSmall_lowered (List.mem_of_find?_eq_some hfind)
            (List.find?_some (p := fun r : CapitalRange => r.contains c.toNat) hfind)
      | none =>
          have hlower := lowerChar_of_not_contains hascii hdot hfind
          rw [hlower] at h
          rw [List.mem_singleton.mp h]
          exact ⟨ne_sigma_of_find? hfind, hlower⟩

/-- But for `İ`, the lower case of a key character is one key character. -/
theorem exists_lowerChar_eq (hkey : isKeyChar c = true) (hdot : c ≠ 'İ') :
    ∃ d, lowerChar c = [d] ∧ isKeyChar d = true := by
  by_cases hascii : c.toNat < 0x80
  · obtain ⟨hlower, -, hlowered⟩ := lowerChar_of_ascii hascii
    exact ⟨c.toLower, hlower, hlowered hkey⟩
  · cases hfind : capitalRanges.find? (·.contains c.toNat) with
    | some r =>
        have hcontains := List.find?_some (p := fun r : CapitalRange => r.contains c.toNat) hfind
        exact ⟨_, lowerChar_of_contains hascii hdot hfind,
          isKeyChar_lowered (List.mem_of_find?_eq_some hfind) hcontains⟩
    | none => exact ⟨c, lowerChar_of_not_contains hascii hdot hfind, hkey⟩

theorem lowerChar_ne_nil (c : Char) : lowerChar c ≠ [] := by
  unfold lowerChar
  split
  · exact List.cons_ne_nil _ _
  · split
    · exact List.cons_ne_nil _ _
    · split <;> exact List.cons_ne_nil _ _

/-! ## Texts -/

theorem isSmall_sigma : ∀ d ∈ ['σ', 'ς'], IsSmall d ∧ isKeyChar d = true := by
  intro d hd
  simp only [List.mem_cons, List.not_mem_nil, or_false] at hd
  rcases hd with rfl | rfl <;> decide +kernel

/-- The lower case of one character among others. -/
theorem lowerAfter_cons (before : Text) (c : Char) (s : Text) :
    (c ≠ 'Σ' ∧ lowerAfter before (c :: s) = lowerChar c ++ lowerAfter (c :: before) s) ∨
      c = 'Σ' ∧ ∃ d ∈ ['σ', 'ς'], lowerAfter before (c :: s) = d :: lowerAfter (c :: before) s := by
  by_cases hc : c = 'Σ'
  · refine .inr ⟨hc, ?_⟩
    rw [lowerAfter, if_pos hc]
    split
    · exact ⟨'ς', by simp, rfl⟩
    · exact ⟨'σ', by simp, rfl⟩
  · refine .inl ⟨hc, ?_⟩
    rw [lowerAfter, if_neg hc]

theorem lower_eq_nil_iff {s : Text} : lower s = [] ↔ s = [] := by
  cases s with
  | nil => exact iff_of_true rfl rfl
  | cons c s =>
      refine iff_of_false ?_ (List.cons_ne_nil c s)
      rw [lower]
      rcases lowerAfter_cons [] c s with ⟨-, heq⟩ | ⟨-, d, -, heq⟩
      · rw [heq]
        exact List.append_ne_nil_of_left_ne_nil (lowerChar_ne_nil c) _
      · rw [heq]
        exact List.cons_ne_nil _ _

theorem isSmall_of_mem_lowerAfter {before s : Text} (h : d ∈ lowerAfter before s) : IsSmall d := by
  induction s generalizing before with
  | nil => cases h
  | cons c s ih =>
      rcases lowerAfter_cons before c s with ⟨-, heq⟩ | ⟨-, e, he, heq⟩
      · rw [heq] at h
        rcases List.mem_append.mp h with h | h
        · exact isSmall_of_mem_lowerChar h
        · exact ih h
      · rw [heq] at h
        rcases List.mem_cons.mp h with rfl | h
        · exact (isSmall_sigma d he).1
        · exact ih h

theorem lowerAfter_cons_of_isSmall (hc : IsSmall c) (before s : Text) :
    lowerAfter before (c :: s) = c :: lowerAfter (c :: before) s := by
  rw [lowerAfter, if_neg hc.1, hc.2]
  rfl

/-- Whether each character of a text is one of keys, or a dot above right behind an `i`. -/
def isLoweredKey : Text → Bool
  | 'i' :: '\u0307' :: s => isLoweredKey s
  | c :: s => isKeyChar c && isLoweredKey s
  | [] => true

theorem isKeyChar_dotAbove : isKeyChar '\u0307' = false := by
  decide +kernel

theorem isLoweredKey_cons {s : Text} (hc : isKeyChar c = true) (hs : isLoweredKey s = true) :
    isLoweredKey (c :: s) = true := by
  rw [isLoweredKey, hc, hs]
  · rfl
  · -- what follows does not begin with a dot above, which is no key character
    rintro s - rfl
    rw [isLoweredKey, isKeyChar_dotAbove] at hs
    · cases hs
    · intro _ h
      cases h

theorem isLoweredKey_lowerAfter {name : Text} (h : ∀ c ∈ name, isKeyChar c = true)
    (before : Text) : isLoweredKey (lowerAfter before name) = true := by
  induction name generalizing before with
  | nil => rfl
  | cons c name ih =>
      obtain ⟨hc, hname⟩ := List.forall_mem_cons.mp h
      have htail := ih hname (c :: before)
      rcases lowerAfter_cons before c name with ⟨-, heq⟩ | ⟨-, d, hd, heq⟩
      · rw [heq]
        by_cases hdot : c = 'İ'
        · subst hdot
          exact htail
        · obtain ⟨d, hlower, hd⟩ := exists_lowerChar_eq hc hdot
          rw [hlower]
          exact isLoweredKey_cons hd htail
      · rw [heq]
        exact isLoweredKey_cons (isSmall_sigma d hd).2 htail

/-- A text without capitals that reads as the lower case of a key is one: with `İ` for each `i` with
a dot above. -/
theorem exists_lowerAfter_eq {t : Text} (h : isLoweredKey t = true) (hsmall : ∀ d ∈ t, IsSmall d) :
    ∃ name : Text, (∀ c ∈ name, isKeyChar c = true) ∧ ∀ before, lowerAfter before name = t := by
  fun_induction isLoweredKey t with
  | case1 s ih =>
      obtain ⟨name, hkey, hlower⟩ := ih h fun d hd => hsmall d (.tail _ (.tail _ hd))
      have hdot : isKeyChar 'İ' = true := by decide +kernel
      refine ⟨'İ' :: name, List.forall_mem_cons.mpr ⟨hdot, hkey⟩, fun before => ?_⟩
      rw [lowerAfter, if_neg (by decide), hlower]
      rfl
  | case2 c s _ ih =>
      obtain ⟨hc, hs⟩ := Bool.and_eq_true_iff.mp h
      obtain ⟨name, hkey, hlower⟩ := ih hs fun d hd => hsmall d (.tail _ hd)
      refine ⟨c :: name, List.forall_mem_cons.mpr ⟨hc, hkey⟩, fun before => ?_⟩
      rw [lowerAfter_cons_of_isSmall (hsmall c (.head _)), hlower]
  | case3 => exact ⟨[], by simp, fun _ => rfl⟩

/-- Whether a text is, but for case, a key that can be typed. -/
def spellsKey (s : Text) : Bool := !s.isEmpty && isLoweredKey (lower s)

theorem exists_isKey_lower_eq_iff {s : Text} :
    (∃ name, IsKey name ∧ lower name = lower s) ↔ spellsKey s = true := by
  simp only [spellsKey, Bool.and_eq_true, Bool.not_eq_true', List.isEmpty_eq_false_iff]
  constructor
  · rintro ⟨name, ⟨hne, hkey⟩, heq⟩
    rw [← heq]
    refine ⟨fun h => hne ?_, isLoweredKey_lowerAfter hkey []⟩
    rwa [h, lower_eq_nil_iff.mpr rfl, lower_eq_nil_iff] at heq
  · rintro ⟨hne, h⟩
    obtain ⟨name, hkey, hlower⟩ := exists_lowerAfter_eq h fun d => isSmall_of_mem_lowerAfter
    refine ⟨name, ⟨?_, hkey⟩, hlower []⟩
    rintro rfl
    exact hne (lower_eq_nil_iff.mp (hlower []).symm)

end LogFilter
