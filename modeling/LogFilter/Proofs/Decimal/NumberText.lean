import LogFilter.Decimal.Read
import LogFilter.Decimal.Shortest

/-!
# The characters of numbers

Integers and floating point numbers are written with digits, signs, points and the letters of
`inf` and `NaN`, whatever their value. The digits of a natural number denote that number, and start
with a zero for no other number than zero.
-/

namespace LogFilter

/-- Nothing but digits, and at least one. -/
structure IsDigits (s : Text) : Prop where
  ne_nil : s ≠ []
  all : ∀ c ∈ s, c.isDigit = true

theorem isDigits_iff {s : Text} : IsDigits s ↔ s ≠ [] ∧ s.all Char.isDigit = true :=
  ⟨fun h => ⟨h.ne_nil, List.all_eq_true.mpr h.all⟩, fun h => ⟨h.1, List.all_eq_true.mp h.2⟩⟩

theorem IsDigits.exists_cons {s : Text} (h : IsDigits s) :
    ∃ c rest, s = c :: rest ∧ c.isDigit = true := by
  cases s with
  | nil => exact absurd rfl h.ne_nil
  | cons c rest => exact ⟨c, rest, rfl, h.all c (.head _)⟩

theorem cutSign_of_isDigit {c : Char} (hc : c.isDigit = true) (s : Text) :
    cutSign (c :: s) = (false, c :: s) := by
  unfold cutSign
  split
  · next heq =>
    cases heq
    exact absurd hc (by decide)
  · next heq =>
    cases heq
    exact absurd hc (by decide)
  · rfl

/-! ## Natural numbers -/

theorem isDigit_ofNat (n : Nat) : ∀ c ∈ Text.ofNat n, c.isDigit = true :=
  fun _ hc => Nat.isDigit_of_mem_toDigits (by decide) (by decide) hc

theorem exists_ofNat_cons (n : Nat) :
    ∃ c digits, Text.ofNat n = c :: digits ∧ c.isDigit = true := by
  have hdigits := isDigit_ofNat n
  cases h : Text.ofNat n with
  | nil => exact (Nat.toDigits_ne_nil h).elim
  | cons c digits => exact ⟨c, digits, rfl, hdigits c (by rw [h]; exact .head _)⟩

theorem ofNat_ne_nil (n : Nat) : Text.ofNat n ≠ [] := Nat.toDigits_ne_nil

theorem isDigits_ofNat (n : Nat) : IsDigits (Text.ofNat n) := ⟨ofNat_ne_nil n, isDigit_ofNat n⟩

theorem digitsValue_ofNat (n : Nat) : digitsValue (Text.ofNat n) = n :=
  Nat.ofDigitChars_toDigits (by decide) (by decide)

/-- No number but zero is written with a zero in front. -/
theorem eq_zero_of_ofNat {n : Nat} {s : Text} (h : Text.ofNat n = '0' :: s) : n = 0 := by
  induction n using Nat.strongRecOn generalizing s with
  | ind n ih =>
      rcases Nat.lt_or_ge n 10 with hlt | hge
      · have hdigits : ∀ n < 10, Nat.digitChar n = '0' → n = 0 := by decide
        rw [Text.ofNat, Nat.toDigits_of_lt_base hlt] at h
        exact hdigits n hlt (List.cons.inj h).1
      · rw [Text.ofNat, Nat.toDigits_of_base_le (by decide) hge] at h
        cases hquotient : Nat.toDigits 10 (n / 10) with
        | nil => exact (Nat.toDigits_ne_nil hquotient).elim
        | cons c digits =>
            rw [hquotient] at h
            obtain rfl : c = '0' := (List.cons.inj h).1
            have hzero := ih (n / 10) (by omega) hquotient
            omega

/-! ## All numbers -/

/-- The characters that numbers are written with. -/
def isNumberChar (c : Char) : Bool :=
  c.isDigit || c ∈ ['-', '.', 'i', 'n', 'f', 'N', 'a']

theorem toNat_lt_of_isNumberChar {c : Char} (h : isNumberChar c = true) : c.toNat < 128 := by
  simp only [isNumberChar, Bool.or_eq_true, decide_eq_true_eq] at h
  rcases h with h | h
  · simp only [Char.isDigit, Bool.and_eq_true, decide_eq_true_eq, ge_iff_le,
      UInt32.le_iff_toNat_le] at h
    have hle : c.toNat ≤ 57 := h.2
    omega
  · have hall : ['-', '.', 'i', 'n', 'f', 'N', 'a'].all (·.toNat < 128) = true := by decide
    simpa using List.all_eq_true.mp hall c h

theorem isNumberChar_ofNat (n : Nat) : ∀ c ∈ Text.ofNat n, isNumberChar c = true := by
  intro c hc
  rw [isNumberChar, isDigit_ofNat n c hc, Bool.true_or]

theorem isNumberChar_ofInt (n : Int) : ∀ c ∈ Text.ofInt n, isNumberChar c = true := by
  cases n with
  | ofNat n => exact isNumberChar_ofNat n
  | negSucc n =>
      intro c hc
      rcases List.mem_cons.mp hc with rfl | hc
      · decide
      · exact isNumberChar_ofNat (n + 1) c hc

theorem isNumberChar_replicate (n : Nat) : ∀ c ∈ List.replicate n '0', isNumberChar c = true := by
  intro c hc
  rw [(List.mem_replicate.mp hc).2]
  decide

theorem isNumberChar_positional (d : Decimal) : ∀ c ∈ d.positional, isNumberChar c = true := by
  have hdigits := isNumberChar_ofNat d.digits
  intro c hc
  unfold Decimal.positional at hc
  simp only at hc
  split at hc
  · split at hc
    · exact hdigits c hc
    · rcases List.mem_append.mp hc with hc | hc
      · exact hdigits c hc
      · exact isNumberChar_replicate _ c hc
  · split at hc
    · rcases List.mem_append.mp hc with hc | hc
      · exact hdigits c (List.mem_of_mem_take hc)
      · rcases List.mem_cons.mp hc with rfl | hc
        · decide
        · exact hdigits c (List.mem_of_mem_drop hc)
    · rcases List.mem_append.mp hc with hc | hc
      · rcases List.mem_append.mp hc with hc | hc
        · have hall : "0.".toList.all isNumberChar = true := by decide
          exact List.all_eq_true.mp hall c hc
        · exact isNumberChar_replicate _ c hc
      · exact hdigits c hc

theorem isNumberChar_signText (negative : Bool) :
    ∀ c ∈ signText negative, isNumberChar c = true := by
  have hall : (signText negative).all isNumberChar = true := by cases negative <;> decide
  exact List.all_eq_true.mp hall

theorem isNumberChar_text (x : Binary64) : ∀ c ∈ x.text, isNumberChar c = true := by
  intro c hc
  cases x with
  | finite negative significand exponent =>
      rcases List.mem_append.mp hc with hc | hc
      · exact isNumberChar_signText negative c hc
      · exact isNumberChar_positional _ c hc
  | infinite negative =>
      have hall : "inf".toList.all isNumberChar = true := by decide
      rcases List.mem_append.mp hc with hc | hc
      · exact isNumberChar_signText negative c hc
      · exact List.all_eq_true.mp hall c hc
  | nan =>
      have hall : "NaN".toList.all isNumberChar = true := by decide
      exact List.all_eq_true.mp hall c hc

/-! ## No number is written as nothing -/

theorem ofInt_ne_nil (n : Int) : Text.ofInt n ≠ [] := by
  cases n with
  | ofNat n => exact ofNat_ne_nil n
  | negSucc n => exact List.cons_ne_nil _ _

theorem positional_ne_nil (d : Decimal) : d.positional ≠ [] := by
  have hdigits := ofNat_ne_nil d.digits
  unfold Decimal.positional
  simp only
  split
  · split
    · exact hdigits
    · exact List.append_ne_nil_of_left_ne_nil hdigits _
  · split
    · exact List.append_ne_nil_of_right_ne_nil _ (List.cons_ne_nil _ _)
    · exact List.append_ne_nil_of_right_ne_nil _ hdigits

theorem text_ne_nil (x : Binary64) : x.text ≠ [] := by
  cases x with
  | finite negative significand exponent =>
      exact List.append_ne_nil_of_right_ne_nil _ (positional_ne_nil _)
  | infinite negative => exact List.append_ne_nil_of_right_ne_nil _ (by decide)
  | nan => decide

end LogFilter
