import LogFilter.Json.Skip
import LogFilter.Proofs.Json.Scalars

/-!
# The grammar of JSON

Which texts are JSON values, by the rules of JSON alone: strings with any escapes, numbers of any
size, lists and objects of any depth, with white space between any two tokens.
-/

namespace LogFilter.Json

variable {s t rest : Text}

/-! ### Strings -/

/-- The content of a string, the code units of which need not make characters. -/
inductive IsContent : Text → Prop
  | nil : IsContent []
  | plain {c : Char} {t : Text} : c ≠ '"' → c ≠ '\\' → ¬ c.toNat < 0x20 → IsContent t →
      IsContent (c :: t)
  | escape {c d : Char} {t : Text} : escaped? c = some d → IsContent t → IsContent ('\\' :: c :: t)
  | code {digits t : Text} {n : Nat} : IsCode digits n → IsContent t →
      IsContent ('\\' :: 'u' :: (digits ++ t))

/-- The content of a string that spells a text. -/
inductive Spells : Text → Text → Prop
  | nil : Spells [] []
  | plain {c : Char} {s t : Text} : c ≠ '"' → c ≠ '\\' → ¬ c.toNat < 0x20 → Spells s t →
      Spells (c :: s) (c :: t)
  | escape {c d : Char} {s t : Text} : escaped? c = some d → Spells s t →
      Spells (d :: s) ('\\' :: c :: t)
  | code {digits s t : Text} {n : Nat} : IsCode digits n → isHighSurrogate n = false →
      isLowSurrogate n = false → Spells s t →
      Spells (Char.ofNat n :: s) ('\\' :: 'u' :: (digits ++ t))
  /-- A character past `U+FFFF` may be spelled as two code units. -/
  | pair {high low s t : Text} {h l : Nat} : IsCode high h → isHighSurrogate h = true →
      IsCode low l → isLowSurrogate l = true → Spells s t →
      Spells (Char.ofNat (0x10000 + (h - 0xD800) * 0x400 + (l - 0xDC00)) :: s)
        ('\\' :: 'u' :: (high ++ '\\' :: 'u' :: (low ++ t)))

theorem scanUnit_escape {c d : Char} (h : escaped? c = some d) (s : Text) :
    scanUnit ('\\' :: c :: s) = .ok (.plain d, s) := by
  unfold escaped? at h
  split at h <;> cases h <;> rfl

theorem skipString_of_closing (h : scanUnit s = .ok (.closing, rest)) :
    skipString s = .ok rest := by
  rw [skipString]
  split <;> simp_all

theorem skipString_unit {u : StringUnit} (h : scanUnit s = .ok (u, rest)) (hu : u ≠ .closing) :
    skipString s = skipString rest := by
  rw [skipString]
  split <;> simp_all

/-- The content of a string is passed over up to its closing quote. -/
theorem skipString_append (h : IsContent t) (rest : Text) :
    skipString (t ++ '"' :: rest) = .ok rest := by
  induction h with
  | nil => exact skipString_of_closing rfl
  | plain hquote hbackslash hcontrol _ ih =>
      rw [List.cons_append, skipString_unit (scanUnit_plain hquote hbackslash hcontrol _) nofun, ih]
  | escape hescape _ ih =>
      rw [List.cons_append, List.cons_append, skipString_unit (scanUnit_escape hescape _) nofun, ih]
  | code hcode _ ih =>
      rw [List.cons_append, List.cons_append, List.append_assoc,
        skipString_unit (scanUnit_code hcode _) nofun, ih]

theorem scanLow_append {low : Text} {h l : Nat} (hcode : IsCode low l)
    (hlow : isLowSurrogate l = true) (s : Text) :
    scanLow h ('\\' :: 'u' :: (low ++ s)) =
      .ok (Char.ofNat (0x10000 + (h - 0xD800) * 0x400 + (l - 0xDC00)), s) := by
  simp only [scanLow, scanHex_append hcode, hlow, if_true]

theorem scanString_pair {u : Text} {c : Char} {n : Nat} (hunit : scanUnit s = .ok (.code n, u))
    (hhigh : isHighSurrogate n = true) (hlow : scanLow n u = .ok (c, rest)) :
    scanString s = (scanString rest).map fun (a, s) => (c :: a, s) := by
  have hnot : isLowSurrogate n = false := by
    simp only [isHighSurrogate, isLowSurrogate, Bool.and_eq_true, decide_eq_true_eq,
      Bool.and_eq_false_iff, decide_eq_false_iff_not] at hhigh ⊢
    omega
  rw [scanString]
  split
  · next heq =>
    rw [hunit] at heq
    cases heq
  · next heq =>
    rw [hunit] at heq
    cases heq
  · next heq =>
    rw [hunit] at heq
    cases heq
  · next heq =>
    rw [hunit] at heq
    cases heq
    rw [if_neg (by simp [hnot]), if_pos hhigh]
    split
    · next heq =>
      rw [hlow] at heq
      cases heq
    · next heq =>
      rw [hlow] at heq
      cases heq
      rfl

/-- The content of a string is read as the text that it spells. -/
theorem scanString_append (h : Spells s t) (rest : Text) :
    scanString (t ++ '"' :: rest) = .ok (s, rest) := by
  induction h with
  | nil => exact scanString_of_closing rfl
  | plain hquote hbackslash hcontrol _ ih =>
      rw [List.cons_append, scanString_plain (scanUnit_plain hquote hbackslash hcontrol _), ih,
        map_ok]
  | escape hescape _ ih =>
      rw [List.cons_append, List.cons_append, scanString_plain (scanUnit_escape hescape _), ih,
        map_ok]
  | code hcode hhigh hlow _ ih =>
      rw [List.cons_append, List.cons_append, List.append_assoc,
        scanString_code (scanUnit_code hcode _) hhigh hlow, ih, map_ok]
  | pair hhigh hsurrogate hcode hlow _ ih =>
      rw [List.cons_append, List.cons_append, List.append_assoc, List.cons_append, List.cons_append,
        List.append_assoc,
        scanString_pair (scanUnit_code hhigh _) hsurrogate (scanLow_append hcode hlow _), ih,
        map_ok]

/-- A string and the text that it spells. -/
def SpellsText (s t : Text) : Prop := ∃ content, Spells s content ∧ t = '"' :: (content ++ ['"'])

theorem spells_flatMap_writeChar (s : Text) : Spells s (s.flatMap writeChar) := by
  induction s with
  | nil => exact .nil
  | cons c s ih =>
      rw [List.flatMap_cons]
      unfold writeChar
      split
      -- a backslash and one letter
      all_goals try exact .escape rfl ih
      next hquote hbackslash _ _ _ _ _ =>
      split
      · next hcontrol =>
        -- a control character is no half of a surrogate pair
        have hhigh : isHighSurrogate c.toNat = false := by simp [isHighSurrogate]; omega
        have hlow : isLowSurrogate c.toNat = false := by simp [isLowSurrogate]; omega
        have hcode := Spells.code ⟨rfl, hexNumber?_control c.toNat hcontrol⟩ hhigh hlow ih
        rwa [Char.ofNat_toNat] at hcode
      · next hcontrol => exact .plain hquote hbackslash hcontrol ih

theorem spellsText_writeText (s : Text) : SpellsText s (writeText s) :=
  ⟨_, spells_flatMap_writeChar s, rfl⟩

theorem exists_scanUnit_of_scanLow {high : Nat} {c : Char} (h : scanLow high s = .ok (c, rest)) :
    ∃ n, scanUnit s = .ok (.code n, rest) := by
  unfold scanLow at h
  split at h
  · cases h
  · cases h
  · next u =>
    cases hhex : scanHex u with
    | error fault =>
        rw [hhex] at h
        cases h
    | ok found =>
        obtain ⟨n, left⟩ := found
        rw [hhex] at h
        simp only at h
        split at h
        · obtain ⟨-, rfl⟩ := Prod.mk.inj (Except.ok.inj h)
          refine ⟨n, ?_⟩
          change (scanHex u).map _ = _
          rw [hhex, map_ok]
        · cases h
  · cases h

/-- A string that is read is also passed over. -/
theorem skipString_of_scanString {a : Text} (h : scanString s = .ok (a, rest)) :
    skipString s = .ok rest := by
  induction hlen : s.length using Nat.strongRecOn generalizing s a with
  | ind len ih =>
      subst hlen
      rw [scanString] at h
      split at h
      · cases h
      · next hunit =>
        cases h
        exact skipString_of_closing hunit
      · next hunit =>
        obtain ⟨⟨b, left⟩, hread, heq⟩ := map_eq_ok_iff.mp h
        cases heq
        rw [skipString_unit hunit (by simp)]
        exact ih _ (length_scanUnit_lt hunit) hread rfl
      · next hunit =>
        split at h
        · cases h
        · split at h
          · split at h
            · cases h
            · next hpair =>
              -- both halves of a pair are passed over
              obtain ⟨⟨b, left⟩, hread, heq⟩ := map_eq_ok_iff.mp h
              cases heq
              obtain ⟨n, hsecond⟩ := exists_scanUnit_of_scanLow hpair
              rw [skipString_unit hunit (by simp), skipString_unit hsecond (by simp)]
              have hshorter := Nat.lt_trans (length_scanLow_lt hpair) (length_scanUnit_lt hunit)
              exact ih _ hshorter hread rfl
          · obtain ⟨⟨b, left⟩, hread, heq⟩ := map_eq_ok_iff.mp h
            cases heq
            rw [skipString_unit hunit (by simp)]
            exact ih _ (length_scanUnit_lt hunit) hread rfl

/-! ### Numbers -/

inductive IsFraction : Text → Prop
  | none : IsFraction []
  | point {digits : Text} : IsDigits digits → IsFraction ('.' :: digits)

inductive IsExponent : Text → Prop
  | none : IsExponent []
  | letter {e : Char} {sign digits : Text} : e = 'e' ∨ e = 'E' → sign ∈ [[], ['+'], ['-']] →
      IsDigits digits → IsExponent (e :: (sign ++ digits))

inductive IsNumber : Text → Prop
  | parts {sign whole fraction exponent : Text} : sign ∈ [[], ['-']] → IsWhole whole →
      IsFraction fraction → IsExponent exponent →
      IsNumber (sign ++ (whole ++ (fraction ++ exponent)))

theorem IsFraction.head_append {fraction : Text} (h : IsFraction fraction)
    (hrest : ∀ c ∈ rest.head?, c.isDigit = false) :
    ∀ c ∈ (fraction ++ rest).head?, c.isDigit = false := by
  cases h with
  | none => exact hrest
  | point _ =>
      rintro c ⟨⟩
      decide

theorem IsExponent.head_append {exponent : Text} (h : IsExponent exponent)
    (hrest : EndsNumber rest) :
    ∀ c ∈ (exponent ++ rest).head?, c.isDigit = false ∧ c ≠ '.' := by
  cases h with
  | none => exact fun c hc => ⟨(hrest c hc).1, (hrest c hc).2.1⟩
  | letter he _ _ =>
      rintro c ⟨⟩
      rcases he with rfl | rfl <;> decide

theorem exists_scanFraction {fraction : Text} (atEnd : Fault) (h : IsFraction fraction)
    (hrest : ∀ c ∈ rest.head?, c.isDigit = false ∧ c ≠ '.') :
    ∃ digits, scanFraction atEnd (fraction ++ rest) = .ok (digits, rest) := by
  cases h with
  | none =>
      refine ⟨[], ?_⟩
      rw [List.nil_append]
      unfold scanFraction
      split
      · exact absurd rfl (hrest '.' rfl).2
      · rfl
  | point hdigits => exact ⟨_, scanDigits_append atEnd hdigits fun c hc => (hrest c hc).1⟩

theorem cutSign_append {sign digits : Text} (hsign : sign ∈ [[], ['+'], ['-']])
    (hdigits : IsDigits digits) (rest : Text) :
    (cutSign (sign ++ (digits ++ rest))).2 = digits ++ rest := by
  simp only [List.mem_cons, List.not_mem_nil, or_false] at hsign
  rcases hsign with rfl | rfl | rfl
  · obtain ⟨c, tail, rfl, hc⟩ := hdigits.exists_cons
    rw [List.nil_append, List.cons_append, cutSign_of_isDigit hc]
  · rfl
  · rfl

theorem exists_scanExponent {exponent : Text} (atEnd : Fault) (h : IsExponent exponent)
    (hrest : EndsNumber rest) :
    ∃ n, scanExponent atEnd (exponent ++ rest) = .ok (n, rest) := by
  cases h with
  | none => exact ⟨none, scanExponent_of_endsNumber atEnd hrest⟩
  | letter he hsign hdigits =>
      have hscan := scanDigits_append atEnd hdigits fun c hc => (hrest c hc).1
      rw [← cutSign_append hsign hdigits] at hscan
      rw [List.cons_append, List.append_assoc, scanExponent, if_pos he, hscan]
      exact ⟨_, rfl⟩

/-- A number is taken off whole, whatever its size is. -/
theorem exists_scanNumber (atEnd : Fault) (h : IsNumber t) (hrest : EndsNumber rest) :
    ∃ n, scanNumber atEnd (t ++ rest) = .ok (n, rest) := by
  obtain @⟨sign, whole, fraction, exponent, hsign, hwhole, hfraction, hexponent⟩ := h
  have hhead := hexponent.head_append hrest
  obtain ⟨digits, hscanned⟩ := exists_scanFraction atEnd hfraction hhead
  obtain ⟨n, hn⟩ := exists_scanExponent atEnd hexponent hrest
  have hw := scanWhole_append atEnd hwhole (hfraction.head_append fun c hc => (hhead c hc).1)
  simp only [List.append_assoc]
  simp only [List.mem_cons, List.not_mem_nil, or_false] at hsign
  rcases hsign with rfl | rfl
  · obtain ⟨c, tail, rfl, hc⟩ := hwhole.exists_cons
    unfold scanNumber
    split
    next hminus =>
    split at hminus
    · next heq =>
      obtain rfl : c = '-' := (List.cons.inj heq).1
      exact absurd hc (by decide)
    · obtain ⟨rfl, rfl⟩ := Prod.mk.inj hminus
      simp only [List.nil_append, hw, ok_bind, hscanned, hn]
      exact ⟨_, rfl⟩
  · simp only [scanNumber, List.cons_append, List.nil_append, hw, ok_bind, hscanned, hn]
    exact ⟨_, rfl⟩

theorem IsNumber.exists_cons (h : IsNumber t) :
    ∃ c u, t = c :: u ∧ (c = '-' ∨ c.isDigit = true) := by
  obtain @⟨sign, whole, fraction, exponent, hsign, hwhole, -, -⟩ := h
  simp only [List.mem_cons, List.not_mem_nil, or_false] at hsign
  rcases hsign with rfl | rfl
  · obtain ⟨c, tail, rfl, hc⟩ := hwhole.exists_cons
    exact ⟨c, _, rfl, .inr hc⟩
  · exact ⟨'-', _, rfl, .inl rfl⟩

/-! ### Values -/

/-- A value, or what stands between brackets that are not empty. -/
inductive Part where
  | value
  | items (b : Bracket)

def Bracket.opening : Bracket → Char
  | list => '['
  | object => '\x7b'

/-- What stands before a value between brackets: a name and a colon in an object. -/
inductive IsLead : Bracket → Text → Prop
  | list : IsLead .list []
  | object {g name g' : Text} : IsJsonGap g → IsContent name → IsJsonGap g' →
      IsLead .object (g ++ '"' :: (name ++ '"' :: (g' ++ [':'])))

/-- The texts that are JSON values, and those that stand between brackets. -/
inductive IsPart : Part → Text → Prop
  | null : IsPart .value "null"
  | true : IsPart .value "true"
  | false : IsPart .value "false"
  | number {t : Text} : IsNumber t → IsPart .value t
  | string {t : Text} : IsContent t → IsPart .value ('"' :: (t ++ ['"']))
  | empty (b : Bracket) {g : Text} : IsJsonGap g → IsPart .value (b.opening :: (g ++ [b.close]))
  | brackets {b : Bracket} {t : Text} : IsPart (.items b) t →
      IsPart .value (b.opening :: (t ++ [b.close]))
  | one {b : Bracket} {lead g t g' : Text} : IsLead b lead → IsJsonGap g → IsPart .value t →
      IsJsonGap g' → IsPart (.items b) (lead ++ (g ++ (t ++ g')))
  | more {b : Bracket} {lead g t g' u : Text} : IsLead b lead → IsJsonGap g → IsPart .value t →
      IsJsonGap g' → IsPart (.items b) u →
      IsPart (.items b) (lead ++ (g ++ (t ++ (g' ++ ',' :: u))))

/-- The texts that are JSON values. -/
def IsJsonValue (t : Text) : Prop := IsPart .value t

theorem Spells.isContent (h : Spells s t) : IsContent t := by
  induction h with
  | nil => exact .nil
  | plain hquote hbackslash hcontrol _ ih => exact .plain hquote hbackslash hcontrol ih
  | escape hescape _ ih => exact .escape hescape ih
  | code hcode _ _ _ ih => exact .code hcode ih
  | pair hhigh _ hlow _ _ ih => exact .code hhigh (.code hlow ih)

theorem SpellsText.isJsonValue (h : SpellsText s t) : IsJsonValue t := by
  obtain ⟨content, hcontent, rfl⟩ := h
  exact .string hcontent.isContent

theorem isJsonValue_ofNat (n : Nat) : IsJsonValue (Text.ofNat n) := by
  have h := IsNumber.parts (.head _) (isWhole_ofNat n) .none .none
  simp only [List.nil_append, List.append_nil] at h
  exact .number h

end LogFilter.Json
