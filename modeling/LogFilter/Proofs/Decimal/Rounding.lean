import LogFilter.Decimal.Binary64
import Mathlib.Data.Nat.Digits.Defs
import Mathlib.Tactic.Linarith
import Mathlib.Tactic.Ring

/-!
# Rounding of whole numbers

A whole number of more than 54 bits is read as the floating point number nearest to it. The whole
numbers that are read as one floating point number lie between two ends, half a unit of its last
place apart from it; below a power of two the units are half as long, and so the lower end is a
quarter of a unit apart. The ends belong to an even significand.
-/

namespace LogFilter

/-- Between two ends, with them or without. -/
def Inside (ends : Bool) (low high x : Nat) : Prop :=
  if ends then low ≤ x ∧ x ≤ high else low < x ∧ x < high

/-- The lower end around a significand, in quarters of a unit. -/
def lowQuarters (m : Nat) : Nat := if m = 2 ^ 52 then 4 * m - 1 else 4 * m - 2

/-- The number nearest to `n` is `m * 2 ^ (e + 2)`, so that `2 ^ e` is a quarter of a unit. -/
structure RoundsTo (n m e : Nat) : Prop where
  normal : 2 ^ 52 ≤ m
  fits : m < 2 ^ 53
  inside : Inside (m % 2 = 0) (lowQuarters m * 2 ^ e) ((4 * m + 2) * 2 ^ e) n

variable {den n m m' e e' : Nat} {negative other : Bool}

/-! ## One number for each whole number -/

theorem Inside.le {ends : Bool} {low high x : Nat} (h : Inside ends low high x) :
    low ≤ x ∧ x ≤ high := by
  cases ends with
  | true => exact h
  | false => exact ⟨h.1.le, h.2.le⟩

theorem Inside.lt {ends : Bool} {low high x : Nat} (h : Inside ends low high x)
    (hends : ends = false) : low < x ∧ x < high := by
  subst hends
  exact h

theorem Inside.between {ends : Bool} {low high x y z : Nat} (hx : Inside ends low high x)
    (hz : Inside ends low high z) (hxy : x ≤ y) (hyz : y ≤ z) : Inside ends low high y := by
  cases ends with
  | true => exact ⟨hx.1.trans hxy, hyz.trans hz.2⟩
  | false => exact ⟨hx.1.trans_le hxy, hyz.trans_lt hz.2⟩

theorem Inside.of_lt {ends : Bool} {low high x : Nat} (hlow : low < x) (hhigh : x < high) :
    Inside ends low high x := by
  cases ends with
  | true => exact ⟨hlow.le, hhigh.le⟩
  | false => exact ⟨hlow, hhigh⟩

theorem lowQuarters_lt (hnormal : 2 ^ 52 ≤ m) : lowQuarters m * 2 ^ e < 4 * m * 2 ^ e := by
  have hlow : lowQuarters m < 4 * m := by
    unfold lowQuarters
    split <;> omega
  exact Nat.mul_lt_mul_of_pos_right hlow (Nat.two_pow_pos e)

namespace RoundsTo

theorem self (hnormal : 2 ^ 52 ≤ m) (hfits : m < 2 ^ 53) : RoundsTo (4 * m * 2 ^ e) m e :=
  ⟨hnormal, hfits, .of_lt (lowQuarters_lt hnormal)
    (Nat.mul_lt_mul_of_pos_right (by omega) (Nat.two_pow_pos e))⟩

theorem lower (h : RoundsTo n m e) : (2 ^ 54 - 1) * 2 ^ e ≤ n := by
  have hlow : 2 ^ 54 - 1 ≤ lowQuarters m := by
    have hnormal := h.normal
    unfold lowQuarters
    split <;> omega
  exact (Nat.mul_le_mul_right _ hlow).trans h.inside.le.1

theorem pos (h : RoundsTo n m e) : 0 < n :=
  (Nat.mul_pos (by decide) (Nat.two_pow_pos e)).trans_le h.lower

theorem upper (h : RoundsTo n m e) : n < (2 ^ 55 - 2) * 2 ^ e := by
  have hfits := h.fits
  rcases Nat.mod_two_eq_zero_or_one m with heven | hodd
  · -- the greatest significand is odd
    have hhigh : 4 * m + 2 < 2 ^ 55 - 2 := by omega
    exact h.inside.le.2.trans_lt (Nat.mul_lt_mul_of_pos_right hhigh (Nat.two_pow_pos e))
  · have hhigh : 4 * m + 2 ≤ 2 ^ 55 - 2 := by omega
    exact (h.inside.lt (by simp [hodd])).2.trans_le (Nat.mul_le_mul_right _ hhigh)

/-- Whole numbers that are read as one differ by a small part of each. -/
theorem sub_mul_le {w : Nat} (h : RoundsTo n m e) (hw : RoundsTo w m e) :
    (w - n) * 2 ^ 52 ≤ n := by
  have hnormal := h.normal
  have hwidth : (4 * m + 2 - lowQuarters m) * 2 ^ 52 ≤ lowQuarters m := by
    unfold lowQuarters
    split <;> omega
  calc (w - n) * 2 ^ 52 ≤ ((4 * m + 2) * 2 ^ e - lowQuarters m * 2 ^ e) * 2 ^ 52 :=
        Nat.mul_le_mul_right _ (tsub_le_tsub hw.inside.le.2 h.inside.le.1)
    _ = (4 * m + 2 - lowQuarters m) * 2 ^ 52 * 2 ^ e := by
        rw [← Nat.sub_mul, Nat.mul_right_comm]
    _ ≤ lowQuarters m * 2 ^ e := Nat.mul_le_mul_right _ hwidth
    _ ≤ n := h.inside.le.1

theorem exponent_le (h : RoundsTo n m e) (h' : RoundsTo n m' e') : e' ≤ e := by
  by_contra hlt
  have hpow : 2 ^ e * 2 ≤ 2 ^ e' := by
    rw [← Nat.pow_succ]
    exact Nat.pow_le_pow_right (by decide) (by omega)
  have hlower := h'.lower
  have hupper := h.upper
  omega

theorem significand_le (h : RoundsTo n m e) (h' : RoundsTo n m' e) : m' ≤ m := by
  by_contra hlt
  have hlow : lowQuarters m' = 4 * m' - 2 := by
    have hnormal := h.normal
    rw [lowQuarters, if_neg (by omega)]
  have hbelow := h.inside
  have habove := h'.inside
  rw [hlow] at habove
  by_cases hnext : m' = m + 1
  · -- the two intervals touch, and the end belongs to the even significand
    subst hnext
    have hend : 4 * (m + 1) - 2 = 4 * m + 2 := by omega
    rw [hend] at habove
    rcases Nat.mod_two_eq_zero_or_one m with heven | hodd
    · have hodd' : (m + 1) % 2 ≠ 0 := by omega
      exact absurd (habove.lt (by simp [hodd'])).1 hbelow.le.2.not_gt
    · exact absurd (hbelow.lt (by simp [hodd])).2 habove.le.1.not_gt
  · have hgap : 4 * m + 2 < 4 * m' - 2 := by omega
    have hpos := Nat.mul_lt_mul_of_pos_right hgap (Nat.two_pow_pos e)
    exact absurd (habove.le.1.trans hbelow.le.2) hpos.not_ge

theorem unique (h : RoundsTo n m e) (h' : RoundsTo n m' e') : m' = m ∧ e' = e := by
  have hexponent : e' = e := (h.exponent_le h').antisymm (h'.exponent_le h)
  subst hexponent
  exact ⟨(h.significand_le h').antisymm (h'.significand_le h), rfl⟩

end RoundsTo

/-! ## The number that is read -/

/-- The rounded quotient is half a unit apart at most, and even if it is just that. -/
theorem roundQuotient_spec (num : Nat) (hden : 0 < den) :
    2 * num ≤ (2 * roundQuotient num den + 1) * den ∧
      2 * roundQuotient num den * den ≤ 2 * num + den ∧
      (roundQuotient num den % 2 = 0 ∨
        2 * num < (2 * roundQuotient num den + 1) * den ∧
          2 * roundQuotient num den * den < 2 * num + den) := by
  have hdivision : num / den * den + num % den = num := Nat.div_add_mod' num den
  have hrest := Nat.mod_lt num hden
  have hexpand (r : Nat) : (2 * r + 1) * den = 2 * (r * den) + den ∧
      2 * r * den = 2 * (r * den) := ⟨by ring, by ring⟩
  have hsucc : (num / den + 1) * den = num / den * den + den := by ring
  unfold roundQuotient
  simp only [(hexpand _).1, (hexpand _).2]
  split
  · omega
  · split
    · rw [hsucc]
      omega
    · split
      · omega
      · rw [hsucc]
        omega

/-- A number of more than 54 bits is rounded to 53 of them. -/
theorem roundsTo_roundQuotient (hlower : 2 ^ 54 * 2 ^ e ≤ n) (hupper : n < 2 ^ 55 * 2 ^ e) :
    let r := roundQuotient n (2 ^ (e + 2))
    r = 2 ^ 53 ∧ RoundsTo n (2 ^ 52) (e + 1) ∨ r ≠ 2 ^ 53 ∧ RoundsTo n r e := by
  intro r
  obtain ⟨hhigh, hlow, hties⟩ :=
    roundQuotient_spec n (Nat.two_pow_pos (e + 2))
  change 2 * n ≤ (2 * r + 1) * _ at hhigh
  change 2 * r * _ ≤ 2 * n + _ at hlow
  change r % 2 = 0 ∨ 2 * n < (2 * r + 1) * _ ∧ 2 * r * _ < 2 * n + _ at hties
  have hunit : 2 ^ (e + 2) = 4 * 2 ^ e := by ring
  have hpos := Nat.two_pow_pos e
  rw [hunit] at hhigh hlow hties
  generalize hq : 2 ^ e = q at *
  -- products with the unknown significand are counted as one unknown
  have hmul : (2 * r + 1) * (4 * q) = 8 * (r * q) + 4 * q ∧ 2 * r * (4 * q) = 8 * (r * q) :=
    ⟨by ring, by ring⟩
  rw [hmul.1] at hhigh hties
  rw [hmul.2] at hlow hties
  have hnormal : 2 ^ 52 ≤ r := by
    by_contra hlt
    have hle := Nat.mul_le_mul_right q (show r ≤ 2 ^ 52 - 1 by omega)
    omega
  have hcarry : r ≤ 2 ^ 53 := by
    by_contra hlt
    have hle := Nat.mul_le_mul_right q (show 2 ^ 53 + 1 ≤ r by omega)
    omega
  by_cases hr : r = 2 ^ 53
  · refine .inl ⟨hr, le_rfl, by decide, ?_⟩
    rw [hr] at hlow
    have hsucc : 2 ^ (e + 1) = 2 * q := by rw [← hq]; ring
    rw [hsucc, lowQuarters, if_pos rfl, Inside, if_pos (by decide)]
    omega
  · refine .inr ⟨hr, hnormal, by omega, ?_⟩
    rw [hq]
    have hhighEnd : (4 * r + 2) * q = 4 * (r * q) + 2 * q := by ring
    have hlowEnd :
        lowQuarters r * q + 2 * q ≤ 4 * (r * q) ∨ lowQuarters r * q < 2 ^ 54 * q := by
      unfold lowQuarters
      split
      · next heq =>
        rw [heq]
        right
        omega
      · left
        have hle : 4 * r - 2 + 2 = 4 * r := by omega
        rw [← Nat.add_mul, hle]
        exact (Nat.mul_assoc 4 r q).le
    rw [hhighEnd, Inside]
    split
    · omega
    · next hodd =>
      have hodd' : ¬ r % 2 = 0 := by simpa using hodd
      omega

theorem exists_log2_eq (hn : 2 ^ 54 ≤ n) :
    ∃ k, Nat.log2 n = 54 + k ∧ 2 ^ 54 * 2 ^ k ≤ n ∧ n < 2 ^ 55 * 2 ^ k := by
  have hzero : n ≠ 0 := by omega
  have hlog : 54 ≤ Nat.log2 n := (Nat.le_log2 hzero).mpr hn
  obtain ⟨k, hk⟩ := Nat.exists_eq_add_of_le hlog
  have hlower := Nat.log2_self_le hzero
  have hupper := Nat.lt_log2_self (n := n)
  rw [hk, Nat.pow_add] at hlower
  rw [hk, show 54 + k + 1 = 55 + k by omega, Nat.pow_add] at hupper
  exact ⟨k, hk, hlower, hupper⟩

/-- A number of more than 54 bits is nearest to some floating point number. -/
theorem exists_roundsTo (hn : 2 ^ 54 ≤ n) : ∃ m e, RoundsTo n m e := by
  obtain ⟨k, -, hlower, hupper⟩ := exists_log2_eq hn
  rcases roundsTo_roundQuotient hlower hupper with ⟨-, h⟩ | ⟨-, h⟩
  · exact ⟨_, _, h⟩
  · exact ⟨_, _, h⟩

theorem log2Quotient_one (hn : n ≠ 0) : Binary64.log2Quotient n 1 = (Nat.log2 n : Int) := by
  have hlog : 1 <<< Nat.log2 n ≤ n := by
    rw [Nat.one_shiftLeft]
    exact Nat.log2_self_le hn
  have hone : Nat.log2 1 = 0 := by decide
  simp only [Binary64.log2Quotient, hone]
  exact if_pos hlog

/-- A whole number is read as the number nearest to it, or as infinite past all exponents. -/
theorem RoundsTo.ofQuotient_eq (h : RoundsTo n m e) (hn : 2 ^ 54 ≤ n) :
    Binary64.ofQuotient negative n 1 =
      if 969 < e then .infinite negative else .finite negative m (e + 2 : Nat) := by
  have hzero : n ≠ 0 := by omega
  obtain ⟨k, hk, hlower, hupper⟩ := exists_log2_eq hn
  have hexponent :
      max (Binary64.log2Quotient n 1 - 52) Binary64.minExponent = ((k + 2 : Nat) : Int) := by
    rw [log2Quotient_one hzero, hk, Binary64.minExponent]
    omega
  have hscaled : scaleDown n 1 ((k + 2 : Nat) : Int) = (n, 2 ^ (k + 2)) := by
    rw [← Nat.one_shiftLeft]
    rfl
  have hcarry : 1 <<< 53 = 2 ^ 53 := by decide
  have hleast : 1 <<< 52 = 2 ^ 52 := by decide
  simp only [Binary64.ofQuotient, if_neg hzero, hexponent, hscaled, hcarry, hleast]
  have hpast (e : Nat) : Binary64.maxExponent < ((e + 2 : Nat) : Int) ↔ 969 < e := by
    rw [Binary64.maxExponent]
    omega
  rcases roundsTo_roundQuotient hlower hupper with ⟨hr, hrounds⟩ | ⟨hr, hrounds⟩
  · obtain ⟨rfl, rfl⟩ := h.unique hrounds
    have hnext : ((k + 2 : Nat) : Int) + 1 = ((k + 1 + 2 : Nat) : Int) := by omega
    simp only [if_pos hr, hnext, hpast]
  · obtain ⟨rfl, rfl⟩ := h.unique hrounds
    simp only [if_neg hr, hpast]

/-- Fewer bits give no greater exponent than 2. -/
theorem exponent_le_of_ofQuotient (hn : n < 2 ^ 54) (h0 : n ≠ 0) {x : Int}
    (h : Binary64.ofQuotient other n 1 = .finite negative m x) : x ≤ 2 := by
  have hlog : Nat.log2 n < 54 := (Nat.log2_lt h0).mpr hn
  simp only [Binary64.ofQuotient, if_neg h0, log2Quotient_one h0, Binary64.minExponent] at h
  split_ifs at h <;> cases h <;> omega

/-- The numbers that are at least half a unit past the greatest finite one. -/
theorem pastFinite_eq : 2 ^ 1024 - 2 ^ 970 = (2 ^ 54 - 1) * 2 ^ 970 := by
  rw [Nat.sub_one_mul, ← Nat.pow_add]

theorem pow_le_pastFinite {k : Nat} (hk : k ≤ 970) : 2 ^ k ≤ 2 ^ 1024 - 2 ^ 970 := by
  have hpow : 2 ^ k ≤ 2 ^ 970 := pow_le_pow_right₀ one_le_two hk
  rw [pastFinite_eq]
  exact hpow.trans (Nat.le_mul_of_pos_left _ (by decide))

theorem RoundsTo.past_iff (h : RoundsTo n m e) : 969 < e ↔ 2 ^ 1024 - 2 ^ 970 ≤ n := by
  have hlower := h.lower
  have hupper := h.upper
  rw [pastFinite_eq]
  constructor
  · intro hpast
    have hexponent : 970 ≤ e := hpast
    have hpow : 2 ^ 970 ≤ 2 ^ e := pow_le_pow_right₀ one_le_two hexponent
    generalize 2 ^ 970 = top at *
    omega
  · intro hn
    by_contra hle
    have hexponent : e + 1 ≤ 970 := by omega
    have hpow : 2 ^ (e + 1) ≤ 2 ^ 970 := pow_le_pow_right₀ one_le_two hexponent
    rw [pow_succ] at hpow
    generalize 2 ^ 970 = top at *
    omega

theorem pow_le_of_lt_length_toDigits {k : Nat} (hk : 0 < k)
    (h : k < (Nat.toDigits 10 n).length) : 10 ^ k ≤ n := by
  by_contra hlt
  exact h.not_ge ((Nat.length_toDigits_le_iff (by decide) hk).mpr (not_le.mp hlt))

theorem ofDecimal_whole (h0 : n ≠ 0) :
    Binary64.ofDecimal negative n 0 =
      if 400 < (Nat.toDigits 10 n).length then .infinite negative
      else Binary64.ofQuotient negative n 1 := by
  have hone : n * Nat.pow 10 0 = n := Nat.mul_one n
  simp only [Binary64.ofDecimal, Int.add_zero]
  rw [if_neg (by omega), hone]
  exact if_congr (by omega) rfl rfl

/-- A whole number with a decimal exponent of zero is read as the number nearest to it. -/
theorem RoundsTo.ofDecimal_eq (h : RoundsTo n m e) (hn : 2 ^ 54 ≤ n) :
    Binary64.ofDecimal negative n 0 =
      if 969 < e then .infinite negative else .finite negative m (e + 2 : Nat) := by
  rw [ofDecimal_whole (by omega)]
  split
  · next hmany =>
    have hhuge : 2 ^ 1024 ≤ n :=
      calc 2 ^ 1024 ≤ 2 ^ (3 * 400) := pow_le_pow_right₀ one_le_two (by decide)
        _ = (2 ^ 3) ^ 400 := pow_mul 2 3 400
        _ ≤ 10 ^ 400 := pow_le_pow_left₀ (by decide) (by decide) 400
        _ ≤ n := pow_le_of_lt_length_toDigits (by decide) hmany
    rw [if_pos (h.past_iff.mpr ((Nat.sub_le _ _).trans hhuge))]
  · exact h.ofQuotient_eq hn

theorem ofDecimal_past (hn : 2 ^ 1024 - 2 ^ 970 ≤ n) :
    Binary64.ofDecimal negative n 0 = .infinite negative := by
  have hlarge : 2 ^ 54 ≤ n := (pow_le_pastFinite (by decide)).trans hn
  obtain ⟨m, e, h⟩ := exists_roundsTo hlarge
  rw [h.ofDecimal_eq hlarge, if_pos (h.past_iff.mpr hn)]

theorem RoundsTo.ofDecimal_finite (h : RoundsTo n m e) (he : 0 < e) (hfinite : e ≤ 969) :
    Binary64.ofDecimal negative n 0 = .finite negative m (e + 2 : Nat) := by
  have hpow : 2 ^ 1 ≤ 2 ^ e := pow_le_pow_right₀ one_le_two he
  have hlower := h.lower
  rw [h.ofDecimal_eq (by omega), if_neg (by omega)]

/-- The whole numbers that are read as one large number. -/
theorem ofDecimal_eq_finite_iff (he : 0 < e) (hfinite : e ≤ 969) :
    Binary64.ofDecimal other n 0 = .finite negative m (e + 2 : Nat) ↔
      other = negative ∧ RoundsTo n m e := by
  constructor
  · intro h
    have h0 : n ≠ 0 := by
      rintro rfl
      have hexponent := (Binary64.finite.inj h).2.2
      rw [Binary64.minExponent] at hexponent
      omega
    rcases Nat.lt_or_ge n (2 ^ 54) with hlt | hge
    · rw [ofDecimal_whole h0] at h
      split at h
      · cases h
      · have hle := exponent_le_of_ofQuotient hlt h0 h
        omega
    · obtain ⟨m', e', hrounds⟩ := exists_roundsTo hge
      rw [hrounds.ofDecimal_eq hge] at h
      split at h
      · cases h
      · obtain ⟨rfl, rfl, hexponent⟩ := Binary64.finite.inj h
        obtain rfl : e' = e := by omega
        exact ⟨rfl, hrounds⟩
  · rintro ⟨rfl, h⟩
    exact h.ofDecimal_finite he hfinite

end LogFilter
