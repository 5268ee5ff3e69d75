import LogFilter.Proofs.Decimal.ShortestWhole
import LogFilter.Query.Scalar
import Mathlib.Data.List.TakeWhile

/-!
# Reading integers

A decimal integer is read as itself if it has 64 bits, and else as a floating point number.
-/

namespace LogFilter

/-- The decimal texts of an integer: any number of digits behind an optional sign. -/
inductive IsInteger : Text → Int → Prop
  | bare {digits : Text} : IsDigits digits → IsInteger digits (digitsValue digits)
  | plus {digits : Text} : IsDigits digits → IsInteger ('+' :: digits) (digitsValue digits)
  | minus {digits : Text} : IsDigits digits → IsInteger ('-' :: digits) (-digitsValue digits)

variable {digits d : Text} {z w : Int}

/-! ## Digits -/

theorem toLower_of_isDigit {c : Char} (hc : c.isDigit = true) : c.toLower = c := by
  have hle : c.val ≤ '9'.val := by
    simp only [Char.isDigit, Bool.and_eq_true, decide_eq_true_eq] at hc
    exact hc.2
  refine dif_neg fun hupper => ?_
  exact absurd (UInt32.le_trans hupper.1 hle) (by decide)

namespace IsDigits

theorem cutSign_eq (h : IsDigits digits) : cutSign digits = (false, digits) := by
  obtain ⟨c, rest, rfl, hc⟩ := h.exists_cons
  exact cutSign_of_isDigit hc rest

theorem readDigits?_eq (h : IsDigits digits) : readDigits? digits = some (digitsValue digits) :=
  if_pos (isDigits_iff.mp h)

/-- Digits do not spell a word. -/
theorem map_toLower_ne (h : IsDigits digits) {c : Char} (hc : c.isDigit = false) (word : Text) :
    digits.map Char.toLower ≠ c :: word := by
  obtain ⟨first, rest, rfl, hfirst⟩ := h.exists_cons
  intro heq
  rw [List.map_cons, toLower_of_isDigit hfirst] at heq
  rw [(List.cons.inj heq).1, hc] at hfirst
  cases hfirst

theorem readUnsigned?_eq (h : IsDigits digits) (negative : Bool) :
    readUnsigned? negative digits = some (.ofDecimal negative (digitsValue digits) 0) := by
  have htake : digits.takeWhile Char.isDigit = digits := List.takeWhile_eq_self_iff.mpr h.all
  have hdrop : digits.dropWhile Char.isDigit = [] := List.dropWhile_eq_nil_iff.mpr h.all
  simp [readUnsigned?, htake, hdrop, cutFraction, readExponent?, h.ne_nil]

end IsDigits

/-! ## Integers -/

/-- The integer of some digits behind a sign. -/
def signed (negative : Bool) (n : Nat) : Int := if negative then -n else n

theorem natAbs_signed (negative : Bool) (n : Nat) : (signed negative n).natAbs = n := by
  unfold signed
  split <;> omega

theorem natAbs_signed_sub (z : Int) (n : Nat) :
    (signed (z < 0) n - z).natAbs = max (n - z.natAbs) (z.natAbs - n) := by
  simp only [signed, decide_eq_true_eq]
  split <;> omega

theorem decide_signed_neg {negative : Bool} {n : Nat} (h : signed negative n ≠ 0) :
    decide (signed negative n < 0) = negative := by
  cases negative with
  | true =>
      simp only [signed, if_true, decide_eq_true_eq] at h ⊢
      omega
  | false =>
      simp only [signed, Bool.false_eq_true, if_false, decide_eq_false_iff_not]
      omega

theorem signText_append_ofNat {n : Nat} (hn : 0 < n) (negative : Bool) :
    signText negative ++ Text.ofNat n = Text.ofInt (signed negative n) := by
  cases negative with
  | false => rfl
  | true =>
      obtain ⟨k, rfl⟩ := Nat.exists_eq_succ_of_ne_zero hn.ne'
      rfl

namespace IsInteger

theorem exists_cutSign (h : IsInteger d z) :
    d ≠ [] ∧ ∃ negative digits, IsDigits digits ∧ cutSign d = (negative, digits) ∧
      z = signed negative (digitsValue digits) := by
  cases h with
  | bare h => exact ⟨h.ne_nil, false, _, h, h.cutSign_eq, rfl⟩
  | plus h => exact ⟨List.cons_ne_nil _ _, false, _, h, rfl, rfl⟩
  | minus h => exact ⟨List.cons_ne_nil _ _, true, _, h, rfl, rfl⟩

theorem readInteger?_eq (h : IsInteger d z) :
    readInteger? d = if -2 ^ 63 ≤ z ∧ z < 2 ^ 63 then some z else none := by
  obtain ⟨-, negative, digits, hdigits, hsign, rfl⟩ := h.exists_cutSign
  have hlimit : 1 <<< 63 = 2 ^ 63 := by decide
  simp only [readInteger?, hsign, hdigits.readDigits?_eq, Option.bind_eq_bind, Option.bind_some,
    hlimit]
  have hrange : (if negative then digitsValue digits ≤ 2 ^ 63 else digitsValue digits < 2 ^ 63) ↔
      -2 ^ 63 ≤ signed negative (digitsValue digits) ∧
        signed negative (digitsValue digits) < 2 ^ 63 := by
    unfold signed
    split <;> omega
  rw [← if_congr hrange rfl rfl]
  cases negative with
  | true => rfl
  | false => rfl

/-- A decimal of no more than an integer is rounded as one. Of zero the sign would be kept. -/
theorem readFloat_eq (h : IsInteger d z) (hz : z ≠ 0) :
    readFloat d = .ok (.ofDecimal (z < 0) z.natAbs 0) := by
  obtain ⟨hne, negative, digits, hdigits, hsign, rfl⟩ := h.exists_cutSign
  have hwords : digits.map Char.toLower ≠ "inf" ∧ digits.map Char.toLower ≠ "infinity" ∧
      digits.map Char.toLower ≠ "nan" :=
    ⟨hdigits.map_toLower_ne rfl _, hdigits.map_toLower_ne rfl _, hdigits.map_toLower_ne rfl _⟩
  rw [readFloat, if_neg hne, hsign, decide_signed_neg hz, natAbs_signed]
  simp only [hwords, or_self, if_false, hdigits.readUnsigned?_eq]

end IsInteger

theorem isInteger_ofInt (z : Int) : IsInteger (Text.ofInt z) z := by
  cases z with
  | ofNat n =>
      have h := IsInteger.bare (isDigits_ofNat n)
      rwa [digitsValue_ofNat] at h
  | negSucc n =>
      have h := IsInteger.minus (isDigits_ofNat (n + 1))
      rwa [digitsValue_ofNat] at h

/-! ## Integers past 64 bits -/

/-- An integer that is written for another one: both are read as one floating point number, and
no integer that is read as it ends with more zeros. -/
structure StandsFor (w z : Int) : Prop where
  same : readFloat (Text.ofInt w) = readFloat (Text.ofInt z)
  near : (w - z).natAbs * 2 ^ 52 ≤ z.natAbs
  zeros : ∀ v : Int, ∀ k : Nat,
    readFloat (Text.ofInt (v * 10 ^ k)) = readFloat (Text.ofInt z) → (10 : Int) ^ k ∣ w

/-- Fifteen digits with zeros behind them are kept. -/
theorem StandsFor.eq_of_lt (h : StandsFor w z) {v : Int} {k : Nat} (hz : z = v * 10 ^ k)
    (hv : v.natAbs < 10 ^ 15) : w = z := by
  have hdvd : (10 : Int) ^ k ∣ w - z :=
    Int.dvd_sub (h.zeros v k (by rw [hz])) ⟨v, by rw [hz, Int.mul_comm]⟩
  have hpow : ((10 : Int) ^ k).natAbs = 10 ^ k := Int.natAbs_pow 10 k
  have hlt : (w - z).natAbs < 10 ^ k := by
    have hnear := h.near
    have habs : z.natAbs = v.natAbs * 10 ^ k := by rw [hz, Int.natAbs_mul, hpow]
    have hsmall := Nat.mul_lt_mul_of_pos_right hv (Nat.pow_pos (n := k) (a := 10) (by decide))
    rw [habs] at hnear
    omega
  have hzero := Int.eq_zero_of_dvd_of_natAbs_lt_natAbs hdvd (by rwa [hpow])
  omega

theorem readFloat_ofInt (v : Int) :
    readFloat (Text.ofInt v) = .ok (.ofDecimal (v < 0) v.natAbs 0) := by
  by_cases hv : v = 0
  · subst hv
    decide
  · exact (isInteger_ofInt v).readFloat_eq hv

theorem readFloat_ofInt_eq_iff {m e : Nat} (he : 0 < e) (hfinite : e ≤ 969)
    (hz : RoundsTo z.natAbs m e) (v : Int) :
    readFloat (Text.ofInt v) = readFloat (Text.ofInt z) ↔
      (v < 0 ↔ z < 0) ∧ RoundsTo v.natAbs m e := by
  rw [readFloat_ofInt, readFloat_ofInt, Except.ok.injEq, hz.ofDecimal_finite he hfinite,
    ofDecimal_eq_finite_iff he hfinite, decide_eq_decide]

/-- Every finite large integer has one that is written for it. -/
theorem exists_standsFor (hlarge : 2 ^ 63 ≤ z.natAbs) (hfinite : z.natAbs < 2 ^ 1024 - 2 ^ 970) :
    ∃ w, (Binary64.ofDecimal (z < 0) z.natAbs 0).text = Text.ofInt w ∧ StandsFor w z := by
  obtain ⟨m, e, hz⟩ := exists_roundsTo (n := z.natAbs) (by omega)
  have hsmall : e ≤ 969 := by
    by_contra hpast
    exact absurd (hz.past_iff.mp (by omega)) hfinite.not_ge
  have hgreat : 8 ≤ e := by
    by_contra hlt
    have hpow : 2 ^ e ≤ 2 ^ 7 := pow_le_pow_right₀ one_le_two (by omega)
    have hupper := hz.upper
    omega
  have hpos : 0 < e := by omega
  obtain ⟨n, htext, hn, hzeros⟩ := exists_text_eq hz.normal hz.fits hgreat hsmall (z < 0)
  have hsign : signed (z < 0) n < 0 ↔ z < 0 := by
    have hn0 := hn.pos
    simp only [signed, decide_eq_true_eq]
    split <;> omega
  refine ⟨signed (z < 0) n, ?_, ?_, ?_, fun v k hv => ?_⟩
  · rw [hz.ofDecimal_finite hpos hsmall, htext, signText_append_ofNat hn.pos]
  · rw [readFloat_ofInt_eq_iff hpos hsmall hz, natAbs_signed]
    exact ⟨hsign, hn⟩
  · rw [natAbs_signed_sub]
    rcases Nat.le_total n z.natAbs with hle | hge
    · rw [Nat.max_eq_right (by omega)]
      exact (hn.sub_mul_le hz).trans hle
    · rw [Nat.max_eq_left (by omega)]
      exact hz.sub_mul_le hn
  · rw [readFloat_ofInt_eq_iff hpos hsmall hz, Int.natAbs_mul, Int.natAbs_pow] at hv
    rw [← Int.natAbs_dvd_natAbs, natAbs_signed, Int.natAbs_pow]
    exact hzeros _ _ hv.2

end LogFilter
