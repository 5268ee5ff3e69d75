import LogFilter.Proofs.Query.Layout
import LogFilter.Query.Scanner

/-!
# The scanner reads the tokens

From each of its states the scanner reads what the cut for that state takes off the text: a word,
a quoted segment and the word behind it, a value, a lexeme (`Scanner.outcome_enter`). So reading
character by character gives the places of the tokens (`scan_eq_map_span`).
-/

namespace LogFilter

namespace Scanner

/-- What comes of a scanner: the place of its token, and the text behind the token. -/
def outcome (start : Nat) (m : Scanner) : Span × Text :=
  ((m.run start).span start, (m.run start).rest)

theorem outcome_of_step {start : Nat} {m next : Scanner} (h : m.step start = some next) :
    m.outcome start = next.outcome start := by
  rw [outcome, run_of_step h, outcome]

theorem outcome_of_end {start : Nat} {m : Scanner} (h : m.step start = none) :
    m.outcome start = (m.span start, m.rest) := by
  rw [outcome, run_of_end h]

variable (start pos : Nat) (keyed? : Option (Nat × Nat))

/-! ## Words and quoted segments -/

theorem outcome_word (s : Text) :
    outcome start ⟨.word, pos, s, keyed?⟩ =
      (⟨start, pos + byteLength (cutWord s).1, keyed?, true⟩, (cutWord s).2) := by
  induction s generalizing pos with
  | nil => exact outcome_of_end rfl
  | cons c s ih =>
      by_cases hc : isBlank c = true
      · have hend : step start ⟨.word, pos, c :: s, keyed?⟩ = none := by simp [step, hc]
        rw [outcome_of_end hend]
        simp [cutWord, hc, span]
      · have hstep : step start ⟨.word, pos, c :: s, keyed?⟩ =
            some ⟨.word, pos + c.utf8Size, s, keyed?⟩ := by simp [step, hc]
        rw [outcome_of_step hstep, ih]
        simp [cutWord, hc, Nat.add_assoc]

/-- Inside quotes the scanner stops where the closing quote is cut off, or at the end. -/
theorem outcome_quoted (q : Quote) (s : Text) :
    outcome start ⟨.quoted q, pos, s, keyed?⟩ =
      match q.close s with
      | none => (⟨start, pos + byteLength s, keyed?, false⟩, [])
      | some (closed, rest) => outcome start ⟨.word, pos + byteLength closed, rest, keyed?⟩ := by
  fun_induction Quote.close q s generalizing pos with
  | case1 q =>
      have hend : step start ⟨.quoted q, pos, [], keyed?⟩ = none := by cases q <;> rfl
      rw [outcome_of_end hend]
      rfl
  | case2 c s ih =>
      have hstep : step start ⟨.quoted .double, pos, '\\' :: c :: s, keyed?⟩ =
          some ⟨.quoted .double, pos + '\\'.utf8Size + c.utf8Size, s, keyed?⟩ := rfl
      rw [outcome_of_step hstep, ih]
      cases Quote.close .double s <;> simp [Nat.add_assoc]
  | case3 q s hpair =>
      have hstep : step start ⟨.quoted q, pos, q.char :: s, keyed?⟩ =
          some ⟨.word, pos + q.char.utf8Size, s, keyed?⟩ := by
        rw [step]
        · rw [if_pos rfl]
        · exact hpair
      rw [outcome_of_step hstep]
      simp
  | case4 q c s hpair hc ih =>
      have hstep : step start ⟨.quoted q, pos, c :: s, keyed?⟩ =
          some ⟨.quoted q, pos + c.utf8Size, s, keyed?⟩ := by
        rw [step]
        · rw [if_neg hc]
        · exact hpair
      rw [outcome_of_step hstep, ih]
      cases q.close s <;> simp [Nat.add_assoc]

/-- A value that opens with a quote, read from behind the quote. -/
theorem outcome_quoted_cutValue (q : Quote) (s : Text) :
    outcome start ⟨.quoted q, pos + q.char.utf8Size, s, keyed?⟩ =
      (⟨start, pos + byteLength (cutValue (q.char :: s)).value, keyed?,
        (cutValue (q.char :: s)).closed⟩, (cutValue (q.char :: s)).rest) := by
  rw [outcome_quoted, cutValue, Quote.ofChar?_char]
  cases hclose : q.close s with
  | none => simp only [hclose, byteLength_cons, Nat.add_assoc]
  | some pair =>
      obtain ⟨closed, rest⟩ := pair
      simp only [hclose, outcome_word, byteLength_cons, byteLength_append, Nat.add_assoc]

theorem outcome_value (s : Text) :
    outcome start ⟨.value, pos, s, keyed?⟩ =
      (⟨start, pos + byteLength (cutValue s).value, keyed?, (cutValue s).closed⟩,
        (cutValue s).rest) := by
  cases s with
  | nil => exact outcome_of_end rfl
  | cons c s =>
      cases hq : Quote.ofChar? c with
      | none =>
          have hstep : step start ⟨.value, pos, c :: s, keyed?⟩ =
              some ⟨.word, pos, c :: s, keyed?⟩ := by simp [step, hq]
          rw [outcome_of_step hstep, outcome_word, cutValue, hq]
      | some q =>
          obtain rfl := Quote.ofChar?_eq_some.mp hq
          have hstep : step start ⟨.value, pos, q.char :: s, keyed?⟩ =
              some ⟨.quoted q, pos + q.char.utf8Size, s, keyed?⟩ := by simp [step]
          rw [outcome_of_step hstep, outcome_quoted_cutValue]

/-! ## Keys -/

/-- Characters of a key are read one by one, whatever follows. -/
theorem outcome_key_append {key : Text} (hk : ∀ c ∈ key, isKeyChar c = true) (s : Text) :
    outcome start ⟨.key, pos, key ++ s, none⟩ =
      outcome start ⟨.key, pos + byteLength key, s, none⟩ := by
  induction key generalizing pos with
  | nil => rfl
  | cons c key ih =>
      have hstep : step start ⟨.key, pos, c :: (key ++ s), none⟩ =
          some ⟨.key, pos + c.utf8Size, key ++ s, none⟩ := by
        simp [step, hk c List.mem_cons_self]
      rw [List.cons_append, outcome_of_step hstep,
        ih _ fun d hd => hk d (List.mem_cons_of_mem c hd), byteLength_cons, Nat.add_assoc]

/-- What is no character of a key, and no colon behind a key, belongs to a word. -/
theorem outcome_key_stop {s : Text} (hs : ∀ c ∈ s.head?, isKeyChar c = false)
    (hcolon : start < pos → s.head? ≠ some ':') :
    outcome start ⟨.key, pos, s, none⟩ = outcome start ⟨.word, pos, s, none⟩ := by
  cases s with
  | nil => rw [outcome_of_end rfl, outcome_of_end rfl]; rfl
  | cons c s =>
      have hc : isKeyChar c = false := hs c rfl
      have hno : ¬ (c = ':' ∧ start < pos) := by
        rintro ⟨rfl, hlt⟩
        exact hcolon hlt rfl
      have hstep : step start ⟨.key, pos, c :: s, none⟩ = some ⟨.word, pos, c :: s, none⟩ := by
        simp [step, hc, hno]
      rw [outcome_of_step hstep]

/-! ## Tokens -/

/-- A text that does not open with a quote, read from its first character. -/
theorem outcome_key {c : Char} {s : Text} (hq : Quote.ofChar? c = none) (start : Nat) :
    outcome start ⟨.key, start, c :: s, none⟩ =
      (Token.span ⟨start, (cutLexeme (c :: s)).1⟩, (cutLexeme (c :: s)).2) := by
  cases hcut : cutKey? (c :: s) with
  | some pair =>
      obtain ⟨key, rest⟩ := pair
      obtain ⟨⟨hne, hall⟩, htext⟩ := cutKey?_eq_some_iff.mp hcut
      have hpos := byteLength_pos hne
      have hstep : step start ⟨.key, start + byteLength key, ':' :: rest, none⟩ =
          some ⟨.value, start + byteLength key + 1, rest,
            some (start + byteLength key, start + byteLength key + 1)⟩ := by
        simp [step, hpos]
      rw [cutLexeme, hcut, htext, outcome_key_append _ _ hall, outcome_of_step hstep,
        outcome_value]
      simp only [Token.span, Token.stop, Token.keyed?, Lexeme.text, Option.map_some,
        byteLength_append, byteLength_cons, Nat.add_assoc]
      rfl
  | none =>
      -- The scanner reads the key characters as if for a key, and finds no colon behind them: they
      -- are the front of a word.
      have hnone := cutKey?_eq_none_iff.mp hcut
      have hsplit := List.takeWhile_append_dropWhile (p := isKeyChar) (l := c :: s)
      have hall : ∀ d ∈ (c :: s).takeWhile isKeyChar, isKeyChar d = true := fun d hd =>
        List.all_eq_true.mp List.all_takeWhile d hd
      have hhead : ∀ d ∈ ((c :: s).dropWhile isKeyChar).head?, isKeyChar d = false := by
        intro d hd
        have h := List.head?_dropWhile_not isKeyChar (c :: s)
        rw [Option.mem_def.mp hd] at h
        simpa using h
      generalize (c :: s).takeWhile isKeyChar = word at hsplit hall
      generalize (c :: s).dropWhile isKeyChar = rest at hsplit hhead
      have hcolon : start < start + byteLength word → rest.head? ≠ some ':' := by
        intro hlt hd
        have hne : word ≠ [] := by
          rintro rfl
          simp at hlt
        obtain ⟨t, rfl⟩ := List.head?_eq_some_iff.mp hd
        exact hnone ⟨word, t, ⟨hne, hall⟩, hsplit.symm⟩
      have hword : IsWord word := fun d hd => isBlank_eq_false_of_isKeyChar (hall d hd)
      have hvalue : cutValue (c :: s) =
          ⟨word ++ (cutWord rest).1, true, (cutWord rest).2⟩ := by
        rw [cutValue, hq]
        simp only [← hsplit, cutWord_append_of_isWord hword]
      rw [cutLexeme, hcut, hvalue, ← hsplit, outcome_key_append _ _ hall,
        outcome_key_stop _ _ hhead hcolon, outcome_word]
      simp only [Token.span, Token.stop, Token.keyed?, Lexeme.text, Option.map_none,
        byteLength_append, Nat.add_assoc]

/-- A scanner that enters a text reads the lexeme at the front of it. -/
theorem outcome_enter (start : Nat) (c : Char) (s : Text) :
    (enter start c s).outcome start =
      (Token.span ⟨start, (cutLexeme (c :: s)).1⟩, (cutLexeme (c :: s)).2) := by
  cases hq : Quote.ofChar? c with
  | none => rw [enter, hq, outcome_key hq]
  | some q =>
      obtain rfl := Quote.ofChar?_eq_some.mp hq
      have hcut : cutKey? (q.char :: s) = none := cutKey?_eq_none_iff.mpr (not_hasKey_quote q s)
      rw [enter, hq, outcome_quoted_cutValue, cutLexeme, hcut]
      rfl

end Scanner

theorem scanFrom_eq_map_span (pos : Nat) (s : Text) :
    scanFrom pos s = (tokensFrom pos (layout s).pieces).map Token.span := by
  fun_induction layout s generalizing pos with
  | case1 s h =>
      rw [scanFrom]
      split
      · rfl
      · next c rest hc =>
        rw [h] at hc
        cases hc
  | case2 s c rest h tail ih =>
      have hout := Scanner.outcome_enter (pos + byteLength (s.takeWhile isBlank)) c rest
      obtain ⟨hspan, hrest⟩ := Prod.mk.inj hout
      rw [scanFrom]
      split
      · next hnil =>
        rw [h] at hnil
        cases hnil
      · next d t hd =>
        rw [h] at hd
        obtain ⟨rfl, rfl⟩ := List.cons.inj hd
        have hpos := congrArg Span.stop hspan
        simp only [tokensFrom, List.map_cons]
        rw [hspan, hrest, ← ih]
        exact congrArg (List.cons _) (congrArg (scanFrom · _) hpos)

/-- The machine and the cuts agree on every text. -/
theorem scan_eq_map_span (s : Text) : scan s = (tokens s).map Token.span :=
  scanFrom_eq_map_span 0 s

end LogFilter
