import LogFilter.Proofs.Query.Places
import LogFilter.Proofs.Query.Scanner

/-!
# The grammar of tokens

From left to right, a text is some blanks, a lexeme that ends at a boundary, and so on up to the
blanks at its end. Every text has exactly one list of such tokens, which is what both the cuts and
the scanner find (`tokens_of_grammar`).
-/

namespace LogFilter

/-- The tokens of a text that begins at `offset`. -/
inductive Tokenized : Nat → Text → List Token → Prop where
  | blanks {offset s} (hs : IsGap s) : Tokenized offset s []
  | token {offset gap l rest ts} (hg : IsGap gap) (hl : l.Valid) (hb : Boundary l.closed rest) :
      Tokenized (offset + byteLength gap + byteLength l.text) rest ts →
      Tokenized offset (gap ++ (l.text ++ rest)) (⟨offset + byteLength gap, l⟩ :: ts)

theorem Tokenized.execution {offset : Nat} {s : Text} {ts : List Token}
    (h : Tokenized offset s ts) : tokensFrom offset (layout s).pieces = ts := by
  induction h with
  | blanks hs => rw [layout_of_isGap hs, tokensFrom]
  | token hg hl hb _ ih => rw [layout_of_lexeme hg hl hb, tokensFrom, ih]

theorem Laid.tokenized {pieces : List Piece} {s : Text} (h : Laid pieces s) (offset : Nat) :
    Tokenized offset (Layout.text ⟨pieces, s⟩) (tokensFrom offset pieces) := by
  induction h generalizing offset with
  | trailing hs => exact .blanks hs
  | piece hg hl hb _ ih =>
      rw [Layout.text_cons]
      exact .token hg hl hb (ih _)

theorem tokenized_tokens (s : Text) : Tokenized 0 s (tokens s) := by
  have h := Laid.tokenized (layout_valid s) 0
  rwa [text_pieces_layout] at h

theorem tokenized_iff {s : Text} {ts : List Token} : Tokenized 0 s ts ↔ tokens s = ts := by
  refine ⟨Tokenized.execution, ?_⟩
  rintro rfl
  exact tokenized_tokens s

/-! ## Where tokens stand -/

/-- The text of a token in its place. -/
def Token.spot (t : Token) : Spot := ⟨t.start, t.lexeme.text⟩

/-- Behind a boundary, blanks stand before the next token. -/
theorem Tokenized.lt_start {offset : Nat} {s : Text} {ts : List Token} (h : Tokenized offset s ts)
    {closed : Bool} (hb : Boundary closed s) : ∀ t ∈ ts.head?, offset < t.start := by
  cases h with
  | blanks => simp
  | @token _ gap l rest ts hg hl =>
      intro t ht
      obtain rfl : _ = t := Option.some.inj ht
      exact Nat.lt_add_of_pos_right (byteLength_pos (hb.gap_ne_nil hl.exists_cons))

theorem Tokenized.spread {offset : Nat} {s : Text} {ts : List Token} (h : Tokenized offset s ts) :
    Spread offset s (ts.map Token.spot) := by
  induction h with
  | blanks hs => exact .blanks hs
  | token hg hl hb hrest ih =>
      refine .spot hg ?_ ih
      intro p hp
      rw [List.head?_map] at hp
      obtain ⟨t, ht, rfl⟩ := Option.map_eq_some_iff.mp hp
      exact hrest.lt_start hb t ht

theorem spaced_tokens (s : Text) : Spaced s ((tokens s).map Token.spot) :=
  (tokenized_tokens s).spread.spaced

theorem Tokenized.valid {offset : Nat} {s : Text} {ts : List Token} (h : Tokenized offset s ts) :
    ∀ t ∈ ts, t.lexeme.Valid := by
  induction h with
  | blanks => simp
  | token _ hl _ _ ih =>
      intro t ht
      rcases List.mem_cons.mp ht with rfl | ht
      · exact hl
      · exact ih t ht

theorem slice?_of_mem_tokens {s : Text} {t : Token} (h : t ∈ tokens s) :
    s.slice? t.start t.stop = some t.lexeme.text :=
  (spaced_tokens s).own t.spot (List.mem_map_of_mem h)

theorem Token.start_lt_stop {t : Token} (h : t.lexeme.Valid) : t.start < t.stop := by
  obtain ⟨c, u, htext, _⟩ := h.exists_cons
  exact Nat.lt_add_of_pos_right (byteLength_pos (by rw [htext]; exact List.cons_ne_nil c u))

/-- The key, the colon and the value of a token stand side by side at the places that it gives. -/
theorem Token.slices_keyed? {s : Text} {t : Token} (h : s.slice? t.start t.stop = some t.lexeme.text)
    {keyStop valueStart : Nat} (hk : t.keyed? = some (keyStop, valueStart)) :
    s.slice? t.start keyStop = t.lexeme.key ∧ s.slice? keyStop valueStart = some [':'] ∧
      s.slice? valueStart t.stop = some t.lexeme.value := by
  obtain ⟨start, key, value, closed⟩ := t
  obtain ⟨key, rfl, hpair⟩ := Option.map_eq_some_iff.mp hk
  obtain ⟨rfl, rfl⟩ := Prod.mk.inj hpair
  obtain ⟨before, after, rfl, rfl, hstop⟩ := Text.slice?_eq_some_iff.mp h
  have hkey := Text.slice?_append before key (':' :: (value ++ after))
  have hcolon := Text.slice?_append (before ++ key) [':'] (value ++ after)
  have hvalue := Text.slice?_append (before ++ key ++ [':']) value after
  have htext : before ++ (Lexeme.text ⟨some key, value, closed⟩ ++ after) =
      before ++ (key ++ (':' :: (value ++ after))) := by simp [Lexeme.text]
  rw [htext]
  refine ⟨hkey, ?_, ?_⟩
  · simpa using hcolon
  · rw [← hstop]
    simpa [Lexeme.text, Nat.add_assoc] using hvalue

/-! ## Quotes left open -/

/-- Whether the value opens with a quote that nothing in it closes. -/
def Lexeme.LeftOpen (l : Lexeme) : Prop :=
  ∃ q s, l.value = Quote.char q :: s ∧ ∀ inner after, q.Inner inner → s ≠ inner ++ q.char :: after

theorem Lexeme.Valid.closed_eq_false_iff {l : Lexeme} (h : l.Valid) :
    l.closed = false ↔ l.LeftOpen := by
  obtain ⟨key, value, closed⟩ := l
  have hv : IsValue value closed := h.isValue
  constructor
  · rintro rfl
    cases hv with
    | @unclosed q s ho =>
        refine ⟨q, s, rfl, ?_⟩
        rintro inner after hi rfl
        rw [← Quote.close_eq_none_iff, hi.close] at ho
        cases ho
  · rintro ⟨q, s, rfl, hopen⟩
    generalize hvalue : q.char :: s = value at hv
    cases hv with
    | empty => cases hvalue
    | bare hq _ =>
        obtain ⟨rfl, _⟩ := List.cons.inj hvalue
        simp at hq
    | @quoted p inner word hi _ =>
        obtain ⟨hchar, rfl⟩ := List.cons.inj hvalue
        obtain rfl := Quote.char_injective hchar
        exact (hopen inner word hi rfl).elim
    | unclosed => rfl

/-! ## The tokens of a text -/

/-- Cuts and scanner find one and the same list of tokens, the only one of the grammar. A token
says where its text, its key and its value stand, and whether a quote is left open in it. Tokens
have at least one character, stand in order with blanks between them, and leave out blanks
only. -/
theorem tokens_of_grammar (s : Text) :
    scan s = (tokens s).map Token.span ∧
      (∀ ts, tokens s = ts ↔ Tokenized 0 s ts) ∧
      (∀ t ∈ tokens s, t.start < t.stop ∧ (t.lexeme.closed = false ↔ t.lexeme.LeftOpen) ∧
        ∀ keyStop valueStart, t.keyed? = some (keyStop, valueStart) →
          s.slice? t.start keyStop = t.lexeme.key ∧ s.slice? keyStop valueStart = some [':'] ∧
            s.slice? valueStart t.stop = some t.lexeme.value) ∧
      Spaced s ((tokens s).map Token.spot) := by
  refine ⟨scan_eq_map_span s, fun ts => tokenized_iff.symm, ?_, spaced_tokens s⟩
  intro t ht
  have hv := (tokenized_tokens s).valid t ht
  refine ⟨Token.start_lt_stop hv, hv.closed_eq_false_iff, ?_⟩
  intro keyStop valueStart hk
  exact Token.slices_keyed? (slice?_of_mem_tokens ht) hk

theorem tokens_of_grammar_mid_word_quote :
    let s : Text := "\u00a0näme:\"a\\\" b\"c don't x:'open \\"
    scan s = [⟨2, 16, some (7, 8), true⟩, ⟨17, 22, none, true⟩, ⟨23, 32, some (24, 25), false⟩] ∧
      s.slice? 8 16 = some "\"a\\\" b\"c" ∧ ∃ t ∈ tokens s, t.lexeme.LeftOpen := by
  intro s
  obtain ⟨hscan, _, hparts, _⟩ := tokens_of_grammar s
  have hnamed : ⟨2, some "näme", "\"a\\\" b\"c", true⟩ ∈ tokens s := by decide +kernel
  have hopen : ⟨23, some "x", "'open \\", false⟩ ∈ tokens s := by decide +kernel
  refine ⟨?_, ?_, _, hopen, (hparts _ hopen).2.1.mp rfl⟩
  · rw [hscan]
    decide +kernel
  · exact ((hparts _ hnamed).2.2 7 8 (by decide +kernel)).2.2

end LogFilter
