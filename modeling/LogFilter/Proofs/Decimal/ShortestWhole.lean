import LogFilter.Decimal.Shortest
import LogFilter.Proofs.Decimal.NumberText
import LogFilter.Proofs.Decimal.Rounding
import Mathlib.Data.List.Basic

/-!
# Shortest texts of large whole numbers

A large floating point number is a whole number, and is written as one. Among the whole numbers
that are read as it, none ends with more zeros than the one that is written.
-/

namespace LogFilter

theorem findSome?_range_eq_some {α : Type} {f : Nat → Option α} {n : Nat} {a : α}
    (h : (List.range n).findSome? f = some a) :
    ∃ i < n, f i = some a ∧ ∀ j < i, f j = none := by
  induction n with
  | zero => cases h
  | succ n ih =>
      rw [List.range_succ, List.findSome?_append] at h
      cases hbefore : (List.range n).findSome? f with
      | some b =>
          rw [hbefore] at h
          obtain ⟨i, hi, hfound⟩ := ih (hbefore.trans h)
          exact ⟨i, hi.trans n.lt_succ_self, hfound⟩
      | none =>
          rw [hbefore] at h
          refine ⟨n, n.lt_succ_self, by simpa using h, fun j hj => ?_⟩
          exact List.findSome?_eq_none_iff.mp hbefore j (List.mem_range.mpr hj)

variable {tie : TieRule} {ends : Bool} {low num high den j m e k : Nat}

/-! ## Points of one grid -/

namespace Decimal

theorem inside_iff (x : Nat) :
    (if ends then low ≤ x && x ≤ high else low < x && x < high) = true ↔
      Inside ends low high x := by
  cases ends <;> simp [Inside]

/-- The point below the value or the point above it is found, if it lies between the ends. -/
theorem onGrid?_cases (tie : TieRule) (ends : Bool) (low num high den : Nat) :
    (onGrid? tie ends low num high den = none ∧ ¬ Inside ends low high (num / den * den) ∧
        ¬ Inside ends low high ((num / den + 1) * den)) ∨
      ∃ j, (j = num / den ∨ j = num / den + 1) ∧
        onGrid? tie ends low num high den = some j ∧ Inside ends low high (j * den) := by
  unfold onGrid?
  simp only
  split
  · next hdown hup =>
    have hdown := (inside_iff _).mp hdown
    have hup := (inside_iff _).mp hup
    right
    split_ifs
    · exact ⟨_, .inl rfl, rfl, hdown⟩
    · exact ⟨_, .inr rfl, rfl, hup⟩
    · cases tie with
      | up => exact ⟨_, .inr rfl, rfl, hup⟩
      | even => exact ⟨_, .inl rfl, rfl, hdown⟩
    · cases tie with
      | up => exact ⟨_, .inr rfl, rfl, hup⟩
      | even => exact ⟨_, .inr rfl, rfl, hup⟩
  · next hdown _ => exact .inr ⟨_, .inl rfl, rfl, (inside_iff _).mp hdown⟩
  · next hup => exact .inr ⟨_, .inr rfl, rfl, (inside_iff _).mp hup⟩
  · next hdown hup =>
    rw [← Bool.not_eq_true, inside_iff] at hdown hup
    exact .inl ⟨rfl, hdown, hup⟩

theorem inside_of_onGrid? (h : onGrid? tie ends low num high den = some j) :
    Inside ends low high (j * den) := by
  rcases onGrid?_cases tie ends low num high den with ⟨hnone, -⟩ | ⟨i, -, hsome, hinside⟩
  · rw [hnone] at h
    cases h
  · rw [hsome] at h
    cases h
    exact hinside

/-- The value lies between the ends, so that a point between the ends has one next to the value. -/
theorem onGrid?_ne_none (hden : 0 < den) (hnum : Inside ends low high num)
    (hj : Inside ends low high (j * den)) : onGrid? tie ends low num high den ≠ none := by
  intro hnone
  rcases onGrid?_cases tie ends low num high den with ⟨-, hdown, hup⟩ | ⟨i, -, hsome, -⟩
  · have hfloor : num / den * den ≤ num := Nat.div_mul_le_self num den
    have hceil : num < (num / den + 1) * den := (Nat.div_lt_iff_lt_mul hden).mp (Nat.lt_succ_self _)
    rcases Nat.lt_or_ge (num / den) j with hlt | hge
    · exact hup (hnum.between hj hceil.le (Nat.mul_le_mul_right den hlt))
    · exact hdown (hj.between hnum (Nat.mul_le_mul_right den hge) hfloor)
  · rw [hsome] at hnone
    cases hnone

/-- The grid of multiples of `10 ^ k`, with the ends around a large number. -/
theorem onPowerOfTen?_eq :
    onPowerOfTen? tie m (e + 2 : Nat) k =
      (onGrid? tie (m % 2 = 0) (lowQuarters m * 2 ^ e) (4 * m * 2 ^ e) ((4 * m + 2) * 2 ^ e)
        (10 ^ k)).map (⟨·, k⟩) := by
  have hexponent : ((e + 2 : Nat) : Int) - 2 = .ofNat e := by
    rw [Int.ofNat_eq_natCast]
    omega
  have hnormal : Binary64.minExponent < ((e + 2 : Nat) : Int) := by
    rw [Binary64.minExponent]
    omega
  have hlow : (if m = 1 <<< 52 ∧ Binary64.minExponent < ((e + 2 : Nat) : Int) then 4 * m - 1
      else 4 * m - 2) = lowQuarters m := by
    simp only [hnormal, and_true]
    rfl
  simp only [onPowerOfTen?, hlow, hexponent]
  simp only [power, Nat.pow_eq, Nat.mul_one]

theorem exists_of_onPowerOfTen? (hnormal : 2 ^ 52 ≤ m) (hfits : m < 2 ^ 53) {d : Decimal}
    (h : onPowerOfTen? tie m (e + 2 : Nat) k = some d) :
    ∃ j : Nat, d = ⟨j, k⟩ ∧ RoundsTo (j * 10 ^ k) m e := by
  rw [onPowerOfTen?_eq] at h
  obtain ⟨j, hj, rfl⟩ := Option.map_eq_some_iff.mp h
  exact ⟨j, rfl, hnormal, hfits, inside_of_onGrid? hj⟩

theorem onPowerOfTen?_ne_none (h : RoundsTo (j * 10 ^ k) m e) :
    onPowerOfTen? tie m (e + 2 : Nat) k ≠ none := by
  rw [onPowerOfTen?_eq, Ne, Option.map_eq_none_iff]
  exact onGrid?_ne_none (Nat.pow_pos (by decide)) (RoundsTo.self h.normal h.fits).inside h.inside

/-! ## All grids -/

/-- A multiplication estimates the number of decimal digits of a power of two. -/
theorem digits_estimate : ∀ b < 1025,
    Nat.pow 10 (b * 30103 / 100000) ≤ Nat.pow 2 (b + 1) ∧
      Nat.pow 2 b < Nat.pow 10 (b * 30103 / 100000 + 1) := by
  decide +kernel

theorem aboveExponent_eq (hnormal : 2 ^ 52 ≤ m) (hfits : m < 2 ^ 53) :
    aboveExponent m (e + 2 : Nat) = ((55 + e) * 30103 / 100000 + 1 : Nat) := by
  have hlog : Nat.log2 m = 52 := (Nat.log2_eq_iff (by omega)).mpr ⟨hnormal, hfits⟩
  rw [aboveExponent, hlog]
  omega

/-- A grid finer than a quarter of a unit has a point next to the number. -/
theorem exists_roundsTo_grid (hnormal : 2 ^ 52 ≤ m) (hfits : m < 2 ^ 53) (hfine : 10 ^ k < 2 ^ e) :
    ∃ j, RoundsTo (j * 10 ^ k) m e := by
  have hden : 0 < 10 ^ k := Nat.pow_pos (by decide)
  have hlow := (Nat.div_lt_iff_lt_mul hden).mp (Nat.lt_succ_self (4 * m * 2 ^ e / 10 ^ k))
  have hhigh : (4 * m * 2 ^ e / 10 ^ k + 1) * 10 ^ k < (4 * m + 2) * 2 ^ e := by
    rw [Nat.add_mul, Nat.add_mul, Nat.one_mul]
    have hfloor := Nat.div_mul_le_self (4 * m * 2 ^ e) (10 ^ k)
    omega
  have hself : lowQuarters m * 2 ^ e < 4 * m * 2 ^ e := lowQuarters_lt hnormal
  exact ⟨_, hnormal, hfits, .of_lt (hself.trans hlow) hhigh⟩

/-- The decimal of a large number is a whole one. It is read as the number, and no whole number that
is read as it ends with more zeros. -/
theorem exists_shortest (tie : TieRule) (hnormal : 2 ^ 52 ≤ m) (hfits : m < 2 ^ 53) (hlarge : 8 ≤ e)
    (hfinite : e ≤ 969) :
    ∃ j k : Nat, shortest tie m (e + 2 : Nat) = ⟨j, k⟩ ∧ RoundsTo (j * 10 ^ k) m e ∧
      ∀ j' k', RoundsTo (j' * 10 ^ k') m e → k' ≤ k := by
  have hm : m ≠ 0 := by omega
  obtain ⟨hbelow, habove⟩ := digits_estimate (55 + e) (by omega)
  simp only [Nat.pow_eq] at hbelow habove
  rw [shortest, if_neg hm, aboveExponent_eq hnormal hfits]
  have htop : 18 ≤ (55 + e) * 30103 / 100000 := by omega
  generalize (55 + e) * 30103 / 100000 = top at *
  have hgrid {i : Nat} (hi : i ≤ 18) : ((top + 1 : Nat) : Int) - i = (top + 1 - i : Nat) := by omega
  -- the nineteenth grid is fine enough
  have hfine : 10 ^ (top + 1 - 18) < 2 ^ e := by
    have hpos := Nat.two_pow_pos e
    have hsplit : top = (top + 1 - 18) + 17 := by omega
    rw [hsplit, Nat.pow_add, show 55 + e + 1 = e + 56 by omega, Nat.pow_add] at hbelow
    omega
  obtain ⟨fine, hfine⟩ := exists_roundsTo_grid hnormal hfits hfine
  have hhit : onPowerOfTen? tie m (e + 2 : Nat) (top + 1 - 18 : Nat) ≠ none :=
    onPowerOfTen?_ne_none hfine
  rw [← hgrid le_rfl] at hhit
  cases hfound : (List.range 21).findSome? fun (i : Nat) =>
      onPowerOfTen? tie m (e + 2 : Nat) ((top + 1 : Nat) - i) with
  | none =>
      exact absurd (List.findSome?_eq_none_iff.mp hfound 18 (by decide)) hhit
  | some d =>
      obtain ⟨i, -, hd, hfirst⟩ := findSome?_range_eq_some hfound
      have hi : i ≤ 18 := by
        by_contra hlt
        exact hhit (hfirst 18 (by omega))
      rw [hgrid hi] at hd
      obtain ⟨j, rfl, hrounds⟩ := exists_of_onPowerOfTen? hnormal hfits hd
      refine ⟨j, top + 1 - i, ?_, hrounds, fun j' k' hother => ?_⟩
      · simp only [hfound, Option.getD_some]
      have hk' : k' < top + 1 := by
        have hpos : 0 < j' := Nat.pos_of_mul_pos_right hother.pos
        have hupper : (2 ^ 55 - 2) * 2 ^ e ≤ 2 ^ (55 + e) := by
          rw [Nat.pow_add]
          exact Nat.mul_le_mul_right _ (by decide)
        have hpow : 10 ^ k' < 10 ^ (top + 1) :=
          calc 10 ^ k' ≤ j' * 10 ^ k' := Nat.le_mul_of_pos_left _ hpos
            _ < (2 ^ 55 - 2) * 2 ^ e := hother.upper
            _ ≤ 2 ^ (55 + e) := hupper
            _ < 10 ^ (top + 1) := habove
        exact (Nat.pow_lt_pow_iff_right (by decide)).mp hpow
      by_contra hlt
      have hnone := hfirst (top + 1 - k') (by omega)
      rw [hgrid (by omega), show top + 1 - (top + 1 - k') = k' by omega] at hnone
      exact onPowerOfTen?_ne_none hother hnone

end Decimal

/-! ## Texts -/

theorem ofNat_mul_pow (hj : 0 < j) :
    Text.ofNat (j * 10 ^ k) = Text.ofNat j ++ List.replicate k '0' := by
  induction k with
  | zero => simp
  | succ k ih =>
      have hpos : 0 < j * 10 ^ k := Nat.mul_pos hj (Nat.pow_pos (by decide))
      have happend := Nat.toDigits_append_toDigits (b := 10) (d := 0) (by decide) hpos (by decide)
      have hzero : Nat.toDigits 10 0 = ['0'] := by decide
      rw [List.replicate_succ', ← List.append_assoc, ← ih, Nat.pow_succ, ← Nat.mul_assoc,
        Nat.mul_comm _ 10]
      rw [hzero] at happend
      exact happend.symm

theorem positional_of_pos (hj : 0 < j) :
    Decimal.positional ⟨j, k⟩ = Text.ofNat (j * 10 ^ k) := by
  rw [ofNat_mul_pow hj]
  exact if_neg hj.ne'

/-- A large number is written as a whole number that is read as it, and of these as one that ends
with the most zeros. -/
theorem exists_text_eq (hnormal : 2 ^ 52 ≤ m) (hfits : m < 2 ^ 53) (hlarge : 8 ≤ e)
    (hfinite : e ≤ 969) (negative : Bool) :
    ∃ w, (Binary64.finite negative m (e + 2 : Nat)).text = signText negative ++ Text.ofNat w ∧
      RoundsTo w m e ∧ ∀ v k, RoundsTo (v * 10 ^ k) m e → 10 ^ k ∣ w := by
  obtain ⟨j, k, hshortest, hrounds, hzeros⟩ :=
    Decimal.exists_shortest .up hnormal hfits hlarge hfinite
  refine ⟨j * 10 ^ k, ?_, hrounds, fun v k' hv => ?_⟩
  · rw [Binary64.text, hshortest, positional_of_pos (Nat.pos_of_mul_pos_right hrounds.pos)]
  · exact (Nat.pow_dvd_pow 10 (hzeros v k' hv)).mul_left j

end LogFilter
