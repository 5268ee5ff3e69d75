import LogFilter.Proofs.Query.Layout
import LogFilter.Query.Quoting

/-!
# Quoted tokens

A text is a quoted token if it is a closed segment, and then a word that is empty or ends with the
quote again (`isQuotedBy_iff`). Quoting gives such a token for every text, and unquoting takes it
apart again unless the text was one before.
-/

namespace LogFilter

/-- A closed segment of the given quotes, and then a word that does not hide the last of them. -/
def IsQuotedToken (q : Quote) (s : Text) : Prop :=
  ∃ inner word, q.Inner inner ∧ IsWord word ∧ (∀ c ∈ word.getLast?, c = q.char) ∧
    s = q.char :: (inner ++ q.char :: word)

theorem getLast?_segment (q : Quote) (inner word : Text) :
    (q.char :: (inner ++ q.char :: word)).getLast? = some (word.getLast?.getD q.char) := by
  rw [← List.cons_append, List.getLast?_append, List.getLast?_cons, Option.some_or]

theorem IsQuotedToken.isValue {q : Quote} {s : Text} (h : IsQuotedToken q s) : IsValue s true := by
  obtain ⟨inner, word, hi, hw, _, rfl⟩ := h
  exact .quoted hi hw

theorem IsQuotedToken.exists_cons {q : Quote} {s : Text} (h : IsQuotedToken q s) :
    ∃ t, s = q.char :: t := by
  obtain ⟨inner, word, _, _, _, rfl⟩ := h
  exact ⟨_, rfl⟩

theorem IsQuotedToken.valid {q : Quote} {s : Text} (h : IsQuotedToken q s) :
    Lexeme.Valid ⟨none, s, true⟩ := by
  have hv := h.isValue
  obtain ⟨t, rfl⟩ := h.exists_cons
  exact .quoted hv

theorem isQuotedToken_of_isQuotedBy {q : Quote} {s : Text} (h : isQuotedBy q s = true) :
    IsQuotedToken q s := by
  simp only [isQuotedBy, isToken, Bool.and_eq_true, beq_iff_eq] at h
  obtain ⟨⟨⟨_, hhead⟩, hlast⟩, hone⟩ := h
  split at hone
  · next l hlayout =>
    obtain ⟨hl, htext⟩ := layout_eq_iff.mp hlayout
    have hs : l.text = s := by simpa using htext
    have hv : l.Valid := by
      cases hl with
      | piece _ hv _ _ => exact hv
    subst hs
    cases hv with
    | @keyed key value closed hk _ =>
        obtain ⟨hne, hall⟩ := hk
        cases key with
        | nil => exact (hne rfl).elim
        | cons c key =>
            obtain rfl : c = q.char := by simpa [Lexeme.text] using hhead
            simpa using hall _ List.mem_cons_self
    | @free value closed _ _ hv =>
        simp only [Lexeme.text] at hhead hlast hone ⊢
        cases hv with
        | empty => cases hhead
        | @bare c s hq hw =>
            obtain rfl : c = q.char := by simpa using hhead
            simp at hq
        | @quoted p inner word hi hw =>
            obtain rfl : p = q := Quote.char_injective (by simpa using hhead)
            refine ⟨inner, word, hi, hw, ?_, rfl⟩
            intro c hc
            rw [getLast?_segment, Option.mem_def.mp hc] at hlast
            simpa using hlast
        | unclosed => cases hone
  · cases hone

theorem IsQuotedToken.isQuotedBy {q : Quote} {s : Text} (h : IsQuotedToken q s) :
    isQuotedBy q s = true := by
  have hlayout := layout_lexeme h.valid
  obtain ⟨inner, word, _, _, hlast, rfl⟩ := h
  have hlen : 2 ≤ byteLength (q.char :: (inner ++ q.char :: word)) := by
    have hq := q.char.utf8Size_pos
    simp only [byteLength_cons, byteLength_append]
    omega
  have hend : (q.char :: (inner ++ q.char :: word)).getLast? = some q.char := by
    rw [getLast?_segment]
    cases hw : word.getLast? with
    | none => rfl
    | some c => rw [Option.getD_some, hlast c hw]
  rw [LogFilter.isQuotedBy, isToken, decide_eq_true hlen, hend,
    show layout (q.char :: (inner ++ q.char :: word)) = _ from hlayout]
  simp

theorem isQuotedBy_iff {q : Quote} {s : Text} : isQuotedBy q s = true ↔ IsQuotedToken q s :=
  ⟨isQuotedToken_of_isQuotedBy, IsQuotedToken.isQuotedBy⟩

theorem isQuoted_iff {s : Text} : isQuoted s = true ↔ ∃ q, IsQuotedToken q s := by
  rw [isQuoted, Bool.or_eq_true, isQuotedBy_iff, isQuotedBy_iff]
  constructor
  · rintro (h | h)
    · exact ⟨.double, h⟩
    · exact ⟨.single, h⟩
  · rintro ⟨q, h⟩
    cases q with
    | single => exact .inr h
    | double => exact .inl h

/-- The first character tells by which quotes a token is quoted. -/
theorem IsQuotedToken.unique {p q : Quote} {s : Text} (hp : IsQuotedToken p s)
    (hq : IsQuotedToken q s) : p = q := by
  obtain ⟨t, rfl⟩ := hp.exists_cons
  obtain ⟨u, hu⟩ := hq.exists_cons
  exact Quote.char_injective (List.cons.inj hu).1

theorem isQuotedBy_single_of_double {s : Text} (h : isQuotedBy .double s = true) :
    isQuotedBy .single s = false := by
  cases hs : isQuotedBy .single s with
  | false => rfl
  | true => cases (isQuotedBy_iff.mp h).unique (isQuotedBy_iff.mp hs)

/-! ## Quoting -/

theorem inner_escape (s : Text) : Quote.Inner .double (escape s) := by
  induction s with
  | nil => exact .nil _
  | cons c s ih =>
      simp only [escape]
      split
      · exact .pair c ih
      · next h =>
        simp only [Bool.or_eq_true, decide_eq_true_eq, not_or] at h
        exact .plain h.2 (fun _ => h.1) ih

/-- An escaped text between double quotes. -/
theorem isQuotedToken_escape (s : Text) : IsQuotedToken .double ('"' :: (escape s ++ ['"'])) :=
  ⟨escape s, [], inner_escape s, isWord_nil, by simp, rfl⟩

theorem quote_of_isQuoted {s : Text} (h : isQuoted s = true) : quote s = s := by
  rw [quote, if_pos h]

theorem quote_of_not_isQuoted {s : Text} (h : isQuoted s = false) :
    quote s = '"' :: (escape s ++ ['"']) := by
  rw [quote, if_neg (by simp [h])]

/-- Quoting gives one closed quoted token. -/
theorem exists_isQuotedToken_quote (s : Text) : ∃ q, IsQuotedToken q (quote s) := by
  cases h : isQuoted s with
  | true =>
      rw [quote_of_isQuoted h]
      exact isQuoted_iff.mp h
  | false =>
      rw [quote_of_not_isQuoted h]
      exact ⟨.double, isQuotedToken_escape s⟩

theorem valid_quote (s : Text) : Lexeme.Valid ⟨none, quote s, true⟩ := by
  obtain ⟨q, h⟩ := exists_isQuotedToken_quote s
  exact h.valid

/-- Only texts in single quotes are not brought into double quotes. -/
theorem isQuotedBy_double_quote (s : Text) :
    isQuotedBy .double (quote s) = true ↔ isQuotedBy .single s = false := by
  cases h : isQuoted s with
  | true =>
      rw [quote_of_isQuoted h]
      constructor
      · exact isQuotedBy_single_of_double
      · intro hs
        simpa [isQuoted, hs] using h
  | false =>
      rw [quote_of_not_isQuoted h, (isQuotedToken_escape s).isQuotedBy]
      simp only [isQuoted, Bool.or_eq_false_iff] at h
      simp [h.2]

/-! ## Unquoting -/

@[simp] theorem inside_wrap (c d : Char) (s : Text) : inside (c :: (s ++ [d])) = s := by
  simp [inside]

theorem length_inside (s : Text) : (inside s).length = s.length - 2 := by
  simp [inside, Nat.sub_sub]

theorem length_unescape_le (s : Text) : (unescape s).length ≤ s.length := by
  fun_induction unescape s with
  | case1 s ih => simp only [List.length_cons]; omega
  | case2 s ih => simp only [List.length_cons]; omega
  | case3 c s _ _ ih => simp only [List.length_cons]; omega
  | case4 => exact Nat.le_refl _

theorem unquote_of_double {s : Text} (h : isQuotedBy .double s = true) :
    unquote s = unescape (inside s) := by
  rw [unquote, if_pos h]

theorem unquote_of_single {s : Text} (h : isQuotedBy .single s = true) : unquote s = inside s := by
  rw [unquote, if_neg, if_pos h]
  intro hd
  rw [isQuotedBy_single_of_double hd] at h
  cases h

theorem unquote_of_not_isQuoted {s : Text} (h : isQuoted s = false) : unquote s = s := by
  obtain ⟨hd, hs⟩ := Bool.or_eq_false_iff.mp h
  simp [unquote, hd, hs]

/-- Quotes inside a value stand inside its own quotes. -/
theorem isQuoted_of_isQuoted_unquote {s : Text} (h : isQuoted (unquote s) = true) :
    isQuoted s = true := by
  cases hs : isQuoted s with
  | true => rfl
  | false => rwa [unquote_of_not_isQuoted hs, hs] at h

theorem two_le_length_of_isQuoted {s : Text} (h : isQuoted s = true) : 2 ≤ s.length := by
  obtain ⟨q, inner, word, _, _, _, rfl⟩ := isQuoted_iff.mp h
  simp only [List.length_cons, List.length_append]
  omega

/-- Taking quotes off loses both of them. -/
theorem length_unquote_of_isQuoted {s : Text} (h : isQuoted s = true) :
    (unquote s).length + 2 ≤ s.length := by
  have hlen := two_le_length_of_isQuoted h
  have hinside := length_inside s
  rcases Bool.or_eq_true_iff.mp h with hd | hs
  · have hle := length_unescape_le (inside s)
    rw [unquote_of_double hd]
    omega
  · rw [unquote_of_single hs]
    omega

theorem unquote_quote_of_not_isQuoted {s : Text} (h : isQuoted s = false) :
    unquote (quote s) = s := by
  rw [quote_of_not_isQuoted h, unquote_of_double (isQuotedToken_escape s).isQuotedBy, inside_wrap,
    unescape_escape]

/-- Unquoting undoes quoting on the texts that are not quoted tokens, and on no others. -/
theorem unquote_quote_eq_iff {s : Text} : unquote (quote s) = s ↔ isQuoted s = false := by
  cases h : isQuoted s with
  | false => simp [unquote_quote_of_not_isQuoted h]
  | true =>
      have hlen := length_unquote_of_isQuoted h
      rw [quote_of_isQuoted h]
      constructor
      · intro heq
        rw [heq] at hlen
        omega
      · intro hf
        cases hf

end LogFilter
