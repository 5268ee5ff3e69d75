import LogFilter.Json.Number
import LogFilter.Json.Write
import LogFilter.Proofs.Decimal.NumberText
import LogFilter.Query.Clause

/-!
# Steps of a reader of JSON

What the readers do with white space, with the units of a string, and with the digits of a natural
number, whatever follows that cannot go on a number.
-/

namespace LogFilter

/-! ### Steps of a reader -/

section

variable {ε α β : Type} {x : Except ε α}

theorem bind_eq_ok_iff {f : α → Except ε β} {b : β} :
    (x >>= f) = .ok b ↔ ∃ a, x = .ok a ∧ f a = .ok b := by
  cases x <;> simp [bind, Except.bind]

theorem bind_eq_error_iff {f : α → Except ε β} {e : ε} :
    (x >>= f) = .error e ↔ x = .error e ∨ ∃ a, x = .ok a ∧ f a = .error e := by
  cases x <;> simp [bind, Except.bind]

theorem map_eq_ok_iff {f : α → β} {b : β} : x.map f = .ok b ↔ ∃ a, x = .ok a ∧ f a = b := by
  cases x <;> simp [Except.map]

end

namespace Json

@[simp] theorem ok_bind {α β : Type} (a : α) (f : α → Except Fault β) :
    (Except.ok a >>= f) = f a := rfl

@[simp] theorem map_ok {α β : Type} (f : α → β) (a : α) :
    (Except.ok a : Except Fault α).map f = .ok (f a) := rfl

/-! ### Gaps -/

/-- White space between two tokens of a document. -/
def IsJsonGap (g : Text) : Prop := ∀ c ∈ g, isJsonBlank c = true

theorem isJsonGap_nil : IsJsonGap [] := by
  simp [IsJsonGap]

theorem skipBlanks_gap {g : Text} (hg : IsJsonGap g) (s : Text) :
    skipBlanks (g ++ s) = skipBlanks s :=
  List.dropWhile_append_of_pos hg

theorem skipBlanks_of_gap {g : Text} (hg : IsJsonGap g) : skipBlanks g = [] := by
  rw [← List.append_nil g, skipBlanks_gap hg]
  rfl

theorem skipBlanks_cons {c : Char} (hc : isJsonBlank c = false) (s : Text) :
    skipBlanks (c :: s) = c :: s :=
  List.dropWhile_cons_of_neg (by simp [hc])

theorem skipBlanks_gap_cons {g : Text} (hg : IsJsonGap g) {c : Char} (hc : isJsonBlank c = false)
    (s : Text) : skipBlanks (g ++ c :: s) = c :: s := by
  rw [skipBlanks_gap hg, skipBlanks_cons hc]

theorem skipMark_gap {g : Text} (hg : IsJsonGap g) {mark : Char} (hm : isJsonBlank mark = false)
    (s : Text) : skipMark mark (g ++ mark :: s) = .ok s := by
  rw [skipMark, skipBlanks_gap_cons hg hm]
  exact if_pos rfl

theorem isJsonBlank_of_isDigit {c : Char} (hc : c.isDigit = true) : isJsonBlank c = false := by
  cases hb : isJsonBlank c with
  | false => rfl
  | true =>
      simp only [isJsonBlank, Bool.or_eq_true, beq_iff_eq] at hb
      rcases hb with ((rfl | rfl) | rfl) | rfl <;> exact absurd hc (by decide)

theorem Spacing.isJsonGap_newline (spacing : Spacing) (level : Nat) :
    IsJsonGap (spacing.newline level) := by
  intro c hc
  cases spacing with
  | compact => simp [newline] at hc
  | indented =>
      rcases List.mem_cons.mp hc with rfl | hc
      · decide
      · rw [(List.mem_replicate.mp hc).2]
        decide

theorem Spacing.exists_colon (spacing : Spacing) :
    ∃ g, IsJsonGap g ∧ spacing.colon = ':' :: g := by
  cases spacing with
  | compact => exact ⟨[], isJsonGap_nil, rfl⟩
  | indented => exact ⟨[' '], by simp [IsJsonGap, isJsonBlank], rfl⟩

/-! ### Strings -/

theorem scanString_of_closing {s rest : Text} (h : scanUnit s = .ok (.closing, rest)) :
    scanString s = .ok ([], rest) := by
  rw [scanString]
  split <;> simp_all

theorem scanString_plain {s rest : Text} {c : Char} (h : scanUnit s = .ok (.plain c, rest)) :
    scanString s = (scanString rest).map fun (a, s) => (c :: a, s) := by
  rw [scanString]
  split <;> simp_all

theorem scanString_code {s rest : Text} {n : Nat} (h : scanUnit s = .ok (.code n, rest))
    (hhigh : isHighSurrogate n = false) (hlow : isLowSurrogate n = false) :
    scanString s = (scanString rest).map fun (a, s) => (Char.ofNat n :: a, s) := by
  rw [scanString]
  split <;> simp_all

/-- Four hexadecimal digits and the code unit that they are the number of. -/
structure IsCode (digits : Text) (n : Nat) : Prop where
  length : digits.length = 4
  number : hexNumber? digits = some n

theorem scanHex_append {digits : Text} {n : Nat} (h : IsCode digits n) (s : Text) :
    scanHex (digits ++ s) = .ok (n, s) := by
  have hlen := length_le_byteLength digits
  have hnot : ¬ byteLength digits < 4 := Nat.not_lt.mpr (h.length ▸ hlen)
  rw [scanHex, List.take_left' h.length, List.drop_left' h.length, if_neg hnot, h.number]

theorem scanUnit_code {digits : Text} {n : Nat} (h : IsCode digits n) (s : Text) :
    scanUnit ('\\' :: 'u' :: (digits ++ s)) = .ok (.code n, s) := by
  change (scanHex (digits ++ s)).map _ = _
  rw [scanHex_append h, map_ok]

theorem hexNumber?_control :
    ∀ n < 0x20, hexNumber? ['0', '0', hexDigit (n / 16), hexDigit n] = some n := by
  decide

theorem scanUnit_plain {c : Char} (hquote : c ≠ '"') (hbackslash : c ≠ '\\')
    (hcontrol : ¬ c.toNat < 0x20) (s : Text) : scanUnit (c :: s) = .ok (.plain c, s) := by
  unfold scanUnit
  split <;> simp_all

/-! ### Numbers -/

/-- A text that cannot go on a number. -/
def EndsNumber (s : Text) : Prop :=
  ∀ c ∈ s.head?, c.isDigit = false ∧ c ≠ '.' ∧ c ≠ 'e' ∧ c ≠ 'E'

theorem endsNumber_cons {c : Char} (hc : c.isDigit = false ∧ c ≠ '.' ∧ c ≠ 'e' ∧ c ≠ 'E')
    (s : Text) : EndsNumber (c :: s) := by
  intro d hd
  obtain rfl : c = d := Option.some.inj hd
  exact hc

theorem IsJsonGap.endsNumber_append {g s : Text} (hg : IsJsonGap g) (hs : EndsNumber s) :
    EndsNumber (g ++ s) := by
  cases g with
  | nil => exact hs
  | cons c g =>
      have hc := hg c (.head _)
      simp only [isJsonBlank, Bool.or_eq_true, beq_iff_eq] at hc
      refine endsNumber_cons ?_ (g ++ s)
      rcases hc with ((rfl | rfl) | rfl) | rfl <;> decide

theorem IsJsonGap.endsNumber {g : Text} (hg : IsJsonGap g) : EndsNumber g := by
  rw [← List.append_nil g]
  exact hg.endsNumber_append nofun

theorem scanDigits_append {digits rest : Text} (atEnd : Fault) (hdigits : IsDigits digits)
    (hrest : ∀ c ∈ rest.head?, c.isDigit = false) :
    scanDigits atEnd (digits ++ rest) = .ok (digits, rest) := by
  have htake : rest.takeWhile Char.isDigit = [] := by
    cases rest with
    | nil => rfl
    | cons c rest => exact List.takeWhile_cons_of_neg (by simp [hrest c rfl])
  have hdrop : rest.dropWhile Char.isDigit = rest := by
    cases rest with
    | nil => rfl
    | cons c rest => exact List.dropWhile_cons_of_neg (by simp [hrest c rfl])
  obtain ⟨c, tail, rfl, hc⟩ := hdigits.exists_cons
  have htail : ∀ c ∈ tail, c.isDigit = true := fun d hd => hdigits.all d (.tail _ hd)
  rw [List.cons_append, scanDigits, if_pos hc, List.takeWhile_append_of_pos htail,
    List.dropWhile_append_of_pos htail, htake, hdrop, List.append_nil]

/-- The digits in front of a point: no zero stands before others. -/
inductive IsWhole : Text → Prop
  | zero : IsWhole ['0']
  | digits {s : Text} : IsDigits s → s.head? ≠ some '0' → IsWhole s

theorem IsWhole.exists_cons {whole : Text} (h : IsWhole whole) :
    ∃ c s, whole = c :: s ∧ c.isDigit = true := by
  cases h with
  | zero => exact ⟨'0', [], rfl, rfl⟩
  | digits hdigits _ => exact hdigits.exists_cons

theorem isWhole_ofNat (n : Nat) : IsWhole (Text.ofNat n) := by
  obtain ⟨c, digits, hdigits, -⟩ := exists_ofNat_cons n
  by_cases hc : c = '0'
  · subst hc
    obtain rfl := eq_zero_of_ofNat hdigits
    exact .zero
  · exact .digits (isDigits_ofNat n) (by simp [hdigits, hc])

theorem scanWhole_append {whole rest : Text} (atEnd : Fault) (h : IsWhole whole)
    (hrest : ∀ c ∈ rest.head?, c.isDigit = false) :
    scanWhole atEnd (whole ++ rest) = .ok (whole, rest) := by
  cases h with
  | zero =>
      cases rest with
      | nil => rfl
      | cons c rest => exact if_neg (by simp [hrest c rfl])
  | digits hdigits hzero =>
      have hscan := scanDigits_append atEnd hdigits hrest
      obtain ⟨c, tail, rfl, -⟩ := hdigits.exists_cons
      unfold scanWhole
      split
      · next heq =>
        rw [List.cons_append] at heq
        obtain rfl : c = '0' := (List.cons.inj heq).1
        exact absurd rfl hzero
      · exact hscan

theorem scanFraction_of_endsNumber (atEnd : Fault) {s : Text} (hs : EndsNumber s) :
    scanFraction atEnd s = .ok ([], s) := by
  unfold scanFraction
  split
  · exact ((hs '.' rfl).2.1 rfl).elim
  · rfl

theorem scanExponent_of_endsNumber (atEnd : Fault) {s : Text} (hs : EndsNumber s) :
    scanExponent atEnd s = .ok (none, s) := by
  unfold scanExponent
  split
  · rfl
  · next c s =>
    obtain ⟨_, _, he, hE⟩ := hs c rfl
    exact if_neg (by simp [he, hE])

theorem scanNumber_ofNat (n : Nat) (atEnd : Fault) {rest : Text} (hrest : EndsNumber rest) :
    scanNumber atEnd (Text.ofNat n ++ rest) = .ok (⟨false, Text.ofNat n, [], none⟩, rest) := by
  unfold scanNumber
  split
  next hsign =>
  split at hsign
  · next s heq =>
    obtain ⟨c, digits, hdigits, hc⟩ := exists_ofNat_cons n
    rw [hdigits] at heq
    obtain rfl : c = '-' := (List.cons.inj heq).1
    exact absurd hc (by decide)
  · obtain ⟨rfl, rfl⟩ := Prod.mk.inj hsign
    have hwhole := scanWhole_append atEnd (isWhole_ofNat n) fun c hc => (hrest c hc).1
    simp only [hwhole, scanFraction_of_endsNumber atEnd hrest,
      scanExponent_of_endsNumber atEnd hrest, ok_bind]

theorem le_foldl_digits (digits : Text) (n : Nat) :
    n ≤ digits.foldl (fun n c => 10 * n + digitValue c) n := by
  induction digits generalizing n with
  | nil => exact Nat.le_refl n
  | cons c digits ih => exact Nat.le_trans (by omega) (ih (10 * n + digitValue c))

/-- All digits are taken if the number that they denote has 64 bits. -/
theorem accumulate_of_lt {digits : Text} {n : Nat}
    (h : digits.foldl (fun n c => 10 * n + digitValue c) n < 1 <<< 64) :
    Number.accumulate n digits =
      (digits.foldl (fun n c => 10 * n + digitValue c) n, digits.length) := by
  induction digits generalizing n with
  | nil => rfl
  | cons c digits ih =>
      have hstep : 10 * n + digitValue c < 1 <<< 64 :=
        Nat.lt_of_le_of_lt (le_foldl_digits digits _) h
      rw [Number.accumulate, if_pos hstep, ih h]
      rfl

theorem Number.ofText?_ofNat {n : Nat} (hn : n ≤ maxOffset) :
    ofText? ⟨false, Text.ofNat n, [], none⟩ = some (.integer n) := by
  have hlt : digitsValue (Text.ofNat n) < 1 <<< 64 := by
    rw [digitsValue_ofNat]
    exact Nat.lt_of_le_pred (by decide) hn
  have htaken : accumulate 0 (Text.ofNat n) = (n, (Text.ofNat n).length) := by
    rw [accumulate_of_lt hlt]
    exact congrArg (·, _) (digitsValue_ofNat n)
  rw [ofText?, htaken]
  simp

theorem readNumber_ofNat {n : Nat} (hn : n ≤ maxOffset) {rest : Text} (hrest : EndsNumber rest) :
    readNumber (Text.ofNat n ++ rest) = .ok (.integer n, rest) := by
  simp only [readNumber, scanNumber_ofNat n .truncated hrest, ok_bind, Number.ofText?_ofNat hn]

end Json

end LogFilter
