import LogFilter.Query.Token

/-!
# The grammar of lexemes

What a quoted segment, a value and a lexeme may be, stated without the functions that cut them off
a text. Cutting finds a lexeme of the grammar that ends at a boundary, and no other lexeme of the
grammar does (`cutLexeme_eq_iff`).
-/

namespace LogFilter

/-! ## Characters -/

/-- A run of blanks, of any length. -/
def IsGap (s : Text) : Prop := ∀ c ∈ s, isBlank c = true

/-- A text without blanks. -/
def IsWord (s : Text) : Prop := ∀ c ∈ s, isBlank c = false

def IsKey (s : Text) : Prop := s ≠ [] ∧ ∀ c ∈ s, isKeyChar c = true

theorem isGap_nil : IsGap [] := by
  intro c hc
  cases hc

theorem isWord_nil : IsWord [] := by
  intro c hc
  cases hc

theorem IsGap.append {s t : Text} (hs : IsGap s) (ht : IsGap t) : IsGap (s ++ t) := by
  intro c hc
  rcases List.mem_append.mp hc with hc | hc
  · exact hs c hc
  · exact ht c hc

theorem isGap_takeWhile (s : Text) : IsGap (s.takeWhile isBlank) := by
  intro c hc
  exact List.all_eq_true.mp List.all_takeWhile c hc

theorem IsGap.dropWhile_append {gap : Text} (h : IsGap gap) (s : Text) :
    (gap ++ s).dropWhile isBlank = s.dropWhile isBlank :=
  List.dropWhile_append_of_pos h

theorem IsGap.takeWhile_append {gap : Text} (h : IsGap gap) (s : Text) :
    (gap ++ s).takeWhile isBlank = gap ++ s.takeWhile isBlank :=
  List.takeWhile_append_of_pos h

/-- The code points of the blanks, one by one. -/
def blankCodes : List Nat := [
  0x09, 0x0A, 0x0B, 0x0C, 0x0D, 0x20, 0x85, 0xA0, 0x1680, 0x2000, 0x2001, 0x2002, 0x2003, 0x2004,
  0x2005, 0x2006, 0x2007, 0x2008, 0x2009, 0x200A, 0x2028, 0x2029, 0x202F, 0x205F, 0x3000]

theorem toNat_mem_blankCodes {c : Char} (h : isBlank c = true) : c.toNat ∈ blankCodes := by
  simp only [isBlank, Bool.or_eq_true, Bool.and_eq_true, decide_eq_true_eq, beq_iff_eq] at h
  simp only [blankCodes, List.mem_cons, List.not_mem_nil, or_false]
  omega

/-- No key has a blank in it. -/
theorem isKeyChar_eq_false_of_isBlank {c : Char} (h : isBlank c = true) : isKeyChar c = false := by
  have hall : ∀ n ∈ blankCodes, isKeyChar (Char.ofNat n) = false := by decide +kernel
  have hc := hall c.toNat (toNat_mem_blankCodes h)
  rwa [Char.ofNat_toNat] at hc

theorem isBlank_eq_false_of_isKeyChar {c : Char} (h : isKeyChar c = true) : isBlank c = false := by
  cases hb : isBlank c with
  | false => rfl
  | true => simp [isKeyChar_eq_false_of_isBlank hb] at h

@[simp] theorem isBlank_space : isBlank ' ' = true := by decide

theorem isGap_space : IsGap [' '] := by
  intro c hc
  rw [List.mem_singleton.mp hc]
  exact isBlank_space

@[simp] theorem isBlank_colon : isBlank ':' = false := by decide

@[simp] theorem utf8Size_colon : ':'.utf8Size = 1 := by decide

@[simp] theorem isKeyChar_colon : isKeyChar ':' = false := by decide +kernel

@[simp] theorem isBlank_quote (q : Quote) : isBlank q.char = false := by
  cases q <;> decide

@[simp] theorem isKeyChar_quote (q : Quote) : isKeyChar q.char = false := by
  cases q <;> decide +kernel

@[simp] theorem Quote.ofChar?_char (q : Quote) : Quote.ofChar? q.char = some q :=
  Quote.ofChar?_eq_some.mpr rfl

theorem Quote.char_injective {p q : Quote} (h : p.char = q.char) : p = q := by
  have hp : Quote.ofChar? q.char = some p := Quote.ofChar?_eq_some.mpr h.symm
  simpa using hp.symm

/-! ## Quoted segments -/

/-- What may stand between two quotes: no closing quote, and between double quotes each backslash
together with the character after it. -/
inductive Quote.Inner : Quote → Text → Prop where
  | nil (q : Quote) : Inner q []
  | plain {q c s} (hc : c ≠ q.char) (hb : q = .double → c ≠ '\\') : Inner q s → Inner q (c :: s)
  | pair {s} (c : Char) : Inner .double s → Inner .double ('\\' :: c :: s)

/-- What may follow an opening quote that is never closed. Between double quotes the last
character may be a backslash that has nothing to take with it. -/
def Quote.Open (q : Quote) (s : Text) : Prop :=
  q.Inner s ∨ q = .double ∧ ∃ inner, Inner .double inner ∧ s = inner ++ ['\\']

namespace Quote

theorem close_cons {q : Quote} {c : Char} (s : Text) (hb : q = .double → c ≠ '\\') :
    q.close (c :: s) =
      if c = q.char then some ([c], s) else (q.close s).map fun (a, b) => (c :: a, b) := by
  rw [close]
  intro c' s' hq hc _
  exact hb hq hc

theorem close_pair (c : Char) (s : Text) :
    close .double ('\\' :: c :: s) = (close .double s).map fun (a, b) => ('\\' :: c :: a, b) := by
  rw [close]

theorem backslash_ne_char (q : Quote) : '\\' ≠ q.char := by
  cases q <;> decide

/-- A segment is closed by the first quote that its grammar leaves over. -/
theorem Inner.close {q : Quote} {inner : Text} (h : q.Inner inner) (rest : Text) :
    q.close (inner ++ q.char :: rest) = some (inner ++ [q.char], rest) := by
  induction h with
  | nil q =>
      rw [List.nil_append, close_cons rest (fun _ => (backslash_ne_char q).symm)]
      simp
  | plain hc hb _ ih =>
      rw [List.cons_append, close_cons _ hb, if_neg hc, ih]
      rfl
  | pair c _ ih =>
      rw [List.cons_append, List.cons_append, close_pair, ih]
      rfl

theorem exists_inner_of_close {q : Quote} {s closed rest : Text}
    (h : q.close s = some (closed, rest)) :
    ∃ inner, q.Inner inner ∧ closed = inner ++ [q.char] ∧ s = inner ++ q.char :: rest := by
  fun_induction close q s generalizing closed rest with
  | case1 => simp at h
  | case2 c s ih =>
      obtain ⟨⟨a, b⟩, hab, heq⟩ := Option.map_eq_some_iff.mp h
      obtain ⟨rfl, rfl⟩ := Prod.mk.inj heq
      obtain ⟨inner, hi, rfl, rfl⟩ := ih hab
      exact ⟨'\\' :: c :: inner, .pair c hi, rfl, rfl⟩
  | case3 q s _ =>
      obtain ⟨rfl, rfl⟩ := Prod.mk.inj (Option.some.inj h)
      exact ⟨[], .nil q, rfl, rfl⟩
  | case4 q c s hpair hc ih =>
      obtain ⟨⟨a, b⟩, hab, heq⟩ := Option.map_eq_some_iff.mp h
      obtain ⟨rfl, rfl⟩ := Prod.mk.inj heq
      obtain ⟨inner, hi, rfl, rfl⟩ := ih hab
      refine ⟨c :: inner, .plain hc ?_ hi, rfl, rfl⟩
      intro hq hbs
      cases inner with
      | nil => exact hpair _ _ hq hbs rfl
      | cons d inner => exact hpair _ _ hq hbs rfl

theorem Open.cons {q : Quote} {c : Char} {s : Text} (hc : c ≠ q.char)
    (hb : q = .double → c ≠ '\\') (h : q.Open s) : q.Open (c :: s) := by
  rcases h with hi | ⟨rfl, inner, hi, rfl⟩
  · exact .inl (.plain hc hb hi)
  · exact .inr ⟨rfl, c :: inner, .plain hc hb hi, rfl⟩

theorem Open.pair (c : Char) {s : Text} (h : Open .double s) : Open .double ('\\' :: c :: s) := by
  rcases h with hi | ⟨_, inner, hi, rfl⟩
  · exact .inl (.pair c hi)
  · exact .inr ⟨rfl, '\\' :: c :: inner, .pair c hi, rfl⟩

theorem open_of_close {q : Quote} {s : Text} (h : q.close s = none) : q.Open s := by
  fun_induction close q s with
  | case1 q => exact .inl (.nil q)
  | case2 c s ih => exact (ih (Option.map_eq_none_iff.mp h)).pair c
  | case3 => simp at h
  | case4 q c s hpair hc ih =>
      have hs : q.Open s := ih (Option.map_eq_none_iff.mp h)
      by_cases hbs : q = .double ∧ c = '\\'
      · obtain ⟨rfl, rfl⟩ := hbs
        cases s with
        | nil => exact .inr ⟨rfl, [], .nil _, rfl⟩
        | cons d s => exact (hpair d s rfl rfl rfl).elim
      · exact hs.cons hc fun hq hb => hbs ⟨hq, hb⟩

theorem Inner.close_eq_none {q : Quote} {s : Text} (h : q.Inner s) : q.close s = none := by
  induction h with
  | nil q => rw [Quote.close]
  | plain hc hb _ ih => rw [close_cons _ hb, if_neg hc, ih, Option.map_none]
  | pair c _ ih => rw [close_pair, ih, Option.map_none]

theorem Inner.close_backslash {inner : Text} (h : Inner .double inner) :
    Quote.close .double (inner ++ ['\\']) = none := by
  generalize hq : Quote.double = q at h
  induction h with
  | nil q =>
      subst hq
      decide
  | plain hc hb _ ih => rw [List.cons_append, close_cons _ hb, if_neg hc, ih hq, Option.map_none]
  | pair c _ ih => rw [List.cons_append, List.cons_append, close_pair, ih hq, Option.map_none]

theorem close_eq_none_iff {q : Quote} {s : Text} : q.close s = none ↔ q.Open s := by
  refine ⟨open_of_close, ?_⟩
  rintro (hi | ⟨rfl, inner, hi, rfl⟩)
  · exact hi.close_eq_none
  · exact hi.close_backslash

end Quote

/-! ## Values -/

/-- The values that can be written, with whether their quotes are closed. -/
inductive IsValue : Text → Bool → Prop where
  | empty : IsValue [] true
  | bare {c s} (hq : Quote.ofChar? c = none) (hw : IsWord (c :: s)) : IsValue (c :: s) true
  | quoted {q : Quote} {inner word} (hi : q.Inner inner) (hw : IsWord word) :
      IsValue (q.char :: (inner ++ q.char :: word)) true
  | unclosed {q : Quote} {s} (ho : q.Open s) : IsValue (q.char :: s) false

/-- Where a value ends: before a blank, or at the end of the text, which is the only end of a
value that is left open. -/
def Boundary : Bool → Text → Prop
  | true, rest => ∀ c ∈ rest.head?, isBlank c = true
  | false, rest => rest = []

theorem boundary_nil (closed : Bool) : Boundary closed [] := by
  cases closed <;> simp [Boundary]

theorem boundary_blank {c : Char} (h : isBlank c = true) (s : Text) : Boundary true (c :: s) := by
  simpa [Boundary] using h

/-- A text that follows a boundary begins with a blank, if with anything. -/
theorem Boundary.head_blank {closed : Bool} {rest : Text} (h : Boundary closed rest) :
    Boundary true rest := by
  cases closed with
  | true => exact h
  | false =>
      rw [show rest = [] from h]
      exact boundary_nil true

/-- Only a closed value has something after it. -/
theorem Boundary.closed_of_ne_nil {closed : Bool} {rest : Text} (h : Boundary closed rest)
    (hne : rest ≠ []) : closed = true := by
  cases closed with
  | true => rfl
  | false => exact (hne h).elim

/-- Blanks stand between a boundary and a text that does not begin with one. -/
theorem Boundary.gap_ne_nil {closed : Bool} {gap own rest : Text}
    (h : Boundary closed (gap ++ (own ++ rest)))
    (hown : ∃ c s, own = c :: s ∧ isBlank c = false) : gap ≠ [] := by
  rintro rfl
  obtain ⟨c, s, rfl, hc⟩ := hown
  have hblank : isBlank c = true := h.head_blank c rfl
  rw [hc] at hblank
  cases hblank

theorem cutWord_append_of_isWord {word : Text} (hw : IsWord word) (s : Text) :
    cutWord (word ++ s) = (word ++ (cutWord s).1, (cutWord s).2) := by
  have hall : ∀ c ∈ word, (!isBlank c) = true := by
    intro c hc
    simp [hw c hc]
  rw [cutWord, List.takeWhile_append_of_pos hall, List.dropWhile_append_of_pos hall, cutWord]

theorem cutWord_append_of_boundary {word rest : Text} (hw : IsWord word)
    (hb : Boundary true rest) : cutWord (word ++ rest) = (word, rest) := by
  have hcut : cutWord rest = ([], rest) := by
    cases rest with
    | nil => rfl
    | cons c s => simp [cutWord, show isBlank c = true from hb c rfl]
  rw [cutWord_append_of_isWord hw, hcut, List.append_nil]

theorem isWord_cutWord (s : Text) : IsWord (cutWord s).1 := by
  intro c hc
  have h := List.all_eq_true.mp List.all_takeWhile c hc
  simpa using h

theorem boundary_cutWord (s : Text) : Boundary true (cutWord s).2 := by
  intro c hc
  have h := List.head?_dropWhile_not (fun c => !isBlank c) s
  rw [show (s.dropWhile fun c => !isBlank c).head? = some c from hc] at h
  simpa using h

theorem isValue_cutValue (s : Text) : IsValue (cutValue s).value (cutValue s).closed := by
  fun_cases cutValue s with
  | case1 => exact .empty
  | case2 c s hq =>
      have hw := isWord_cutWord (c :: s)
      cases hcut : (cutWord (c :: s)).1 with
      | nil => exact .empty
      | cons d word =>
          have happ := cutWord_append (c :: s)
          rw [hcut] at hw happ
          obtain ⟨rfl, _⟩ := List.cons.inj happ
          exact .bare hq hw
  | case3 c s q hq hc =>
      rw [Quote.ofChar?_eq_some.mp hq]
      exact .unclosed (Quote.open_of_close hc)
  | case4 c s q hq closed rest hc =>
      obtain ⟨inner, hi, rfl, _⟩ := Quote.exists_inner_of_close hc
      have h := IsValue.quoted hi (isWord_cutWord rest)
      simpa [Quote.ofChar?_eq_some.mp hq] using h

theorem boundary_cutValue (s : Text) : Boundary (cutValue s).closed (cutValue s).rest := by
  fun_cases cutValue s with
  | case1 => exact boundary_nil true
  | case2 c s hq => exact boundary_cutWord (c :: s)
  | case3 c s q hq hc => exact boundary_nil false
  | case4 c s q hq closed rest hc => exact boundary_cutWord rest

/-- A value is cut off whatever stands after its boundary. -/
theorem IsValue.cut {value : Text} {closed : Bool} (h : IsValue value closed) {rest : Text}
    (hb : Boundary closed rest) : cutValue (value ++ rest) = ⟨value, closed, rest⟩ := by
  cases h with
  | empty =>
      cases rest with
      | nil => rfl
      | cons c s =>
          have hc : isBlank c = true := hb c rfl
          have hq : Quote.ofChar? c = none := by
            cases hq : Quote.ofChar? c with
            | none => rfl
            | some q => simp [Quote.ofChar?_eq_some.mp hq] at hc
          simp [cutValue, hq, cutWord, hc]
  | @bare c s hq hw =>
      rw [List.cons_append, cutValue, hq]
      simp only
      rw [← List.cons_append, cutWord_append_of_boundary hw hb]
  | @quoted q inner word hi hw =>
      rw [List.cons_append, List.append_assoc, List.cons_append, cutValue, Quote.ofChar?_char]
      simp only [hi.close, cutWord_append_of_boundary hw hb, List.append_assoc,
        List.singleton_append]
  | @unclosed q s ho =>
      rw [show rest = [] from hb, List.append_nil, cutValue, Quote.ofChar?_char]
      simp only [Quote.close_eq_none_iff.mpr ho]

/-! ## Keys -/

theorem IsKey.cut {key : Text} (h : IsKey key) (rest : Text) :
    cutKey? (key ++ ':' :: rest) = some (key, rest) := by
  have htake : (key ++ ':' :: rest).takeWhile isKeyChar = key := by
    rw [List.takeWhile_append_of_pos h.2]
    simp
  have hdrop : (key ++ ':' :: rest).dropWhile isKeyChar = ':' :: rest := by
    rw [List.dropWhile_append_of_pos h.2]
    simp
  simp [cutKey?, htake, hdrop, h.1]

theorem cutKey?_eq_some_iff {s key rest : Text} :
    cutKey? s = some (key, rest) ↔ IsKey key ∧ s = key ++ ':' :: rest := by
  constructor
  · intro h
    obtain ⟨hs, hne, hall⟩ := cutKey?_eq h
    exact ⟨⟨hne, hall⟩, hs⟩
  · rintro ⟨hk, rfl⟩
    exact hk.cut rest

/-- What can be declared as a key can be typed as one. -/
theorem isKey_of_isValidKey {key : Text} (h : isValidKey key = true) : IsKey key := by
  simp only [isValidKey, Bool.and_eq_true, Bool.not_eq_true', List.isEmpty_eq_false_iff,
    List.all_eq_true] at h
  exact ⟨h.1, fun c hc => isKeyChar_of_isDeclarable (h.2 c hc)⟩

/-- Whether a text begins with a key and a colon. -/
def HasKey (s : Text) : Prop := ∃ key rest, IsKey key ∧ s = key ++ ':' :: rest

theorem cutKey?_eq_none_iff {s : Text} : cutKey? s = none ↔ ¬ HasKey s := by
  constructor
  · rintro h ⟨key, rest, hk, rfl⟩
    rw [hk.cut rest] at h
    cases h
  · intro h
    cases hcut : cutKey? s with
    | none => rfl
    | some pair =>
        obtain ⟨key, rest⟩ := pair
        exact (h ⟨key, rest, cutKey?_eq_some_iff.mp hcut⟩).elim

theorem not_hasKey_quote (q : Quote) (s : Text) : ¬ HasKey (q.char :: s) := by
  rintro ⟨key, rest, ⟨hne, hall⟩, heq⟩
  cases key with
  | nil => exact hne rfl
  | cons c key =>
      obtain ⟨rfl, _⟩ := List.cons.inj heq
      simpa using hall _ List.mem_cons_self

/-- What follows a boundary does not turn the text before it into a key. -/
theorem not_hasKey_append {s rest : Text} (hs : ¬ HasKey s) (hb : Boundary true rest) :
    ¬ HasKey (s ++ rest) := by
  rintro ⟨key, t, hk, heq⟩
  have hcolon : ∀ u, rest ≠ ':' :: u := by
    rintro u rfl
    simpa using hb ':' rfl
  rcases List.append_eq_append_iff.mp heq with ⟨u, rfl, hrest⟩ | ⟨u, rfl, hrest⟩
  · -- the key would reach past `s`, to a blank
    cases u with
    | nil => exact hcolon t hrest
    | cons c u =>
        have hc : isBlank c = true := hb c (by rw [hrest]; rfl)
        have hkc : isKeyChar c = true := hk.2 c (by simp)
        rw [isKeyChar_eq_false_of_isBlank hc] at hkc
        cases hkc
  · cases u with
    | nil => exact hcolon t hrest.symm
    | cons c u =>
        obtain ⟨rfl, rfl⟩ := List.cons.inj hrest
        exact hs ⟨key, u, hk, rfl⟩

/-! ## Lexemes -/

theorem Lexeme.text_free (value : Text) (closed : Bool) :
    Lexeme.text ⟨none, value, closed⟩ = value := rfl

theorem Lexeme.text_keyed (key value : Text) (closed : Bool) :
    Lexeme.text ⟨some key, value, closed⟩ = key ++ ':' :: value := rfl

/-- The lexemes that can be written: a value after a key and a colon, or a value alone that does
not begin like that. -/
inductive Lexeme.Valid : Lexeme → Prop where
  | keyed {key value closed} (hk : IsKey key) (hv : IsValue value closed) :
      Valid ⟨some key, value, closed⟩
  | free {value closed} (hne : value ≠ []) (hk : ¬ HasKey value) (hv : IsValue value closed) :
      Valid ⟨none, value, closed⟩

theorem Lexeme.Valid.isValue {l : Lexeme} (h : l.Valid) : IsValue l.value l.closed := by
  cases h with
  | keyed _ hv => exact hv
  | free _ _ hv => exact hv

theorem IsValue.head_not_blank {value : Text} {closed : Bool} (h : IsValue value closed) :
    ∀ c ∈ value.head?, isBlank c = false := by
  cases h with
  | empty => simp
  | bare hq hw => simpa using hw _ List.mem_cons_self
  | quoted hi hw => simp
  | unclosed ho => simp

/-- A text that is one whole value beginning with a quote is a lexeme. -/
theorem Lexeme.Valid.quoted {q : Quote} {s : Text} {closed : Bool}
    (h : IsValue (q.char :: s) closed) : Lexeme.Valid ⟨none, q.char :: s, closed⟩ :=
  .free (List.cons_ne_nil _ _) (not_hasKey_quote q s) h

theorem Lexeme.Valid.exists_cons {l : Lexeme} (h : l.Valid) :
    ∃ c s, l.text = c :: s ∧ isBlank c = false := by
  cases h with
  | @keyed key value closed hk hv =>
      obtain ⟨hne, hall⟩ := hk
      cases key with
      | nil => exact (hne rfl).elim
      | cons c key =>
          exact ⟨c, _, rfl, isBlank_eq_false_of_isKeyChar (hall c List.mem_cons_self)⟩
  | @free value closed hne hk hv =>
      cases value with
      | nil => exact (hne rfl).elim
      | cons c s => exact ⟨c, s, rfl, hv.head_not_blank c rfl⟩

/-- A lexeme is cut off whatever stands after its boundary. -/
theorem Lexeme.Valid.cut {l : Lexeme} (h : l.Valid) {rest : Text} (hb : Boundary l.closed rest) :
    cutLexeme (l.text ++ rest) = (l, rest) := by
  cases h with
  | @keyed key value closed hk hv =>
      have hkey : cutKey? (key ++ ':' :: (value ++ rest)) = some (key, value ++ rest) := hk.cut _
      simp only [Lexeme.text, List.append_assoc, List.cons_append, cutLexeme, hkey, hv.cut hb]
  | @free value closed hne hk hv =>
      have hkey : cutKey? (value ++ rest) = none :=
        cutKey?_eq_none_iff.mpr (not_hasKey_append hk hb.head_blank)
      simp only [Lexeme.text, cutLexeme, hkey, hv.cut hb]

theorem valid_cutLexeme {c : Char} (s : Text) (hc : isBlank c = false) :
    (cutLexeme (c :: s)).1.Valid := by
  unfold cutLexeme
  split
  · next key rest hcut =>
    exact .keyed (cutKey?_eq_some_iff.mp hcut).1 (isValue_cutValue rest)
  · next hcut =>
    refine .free (cutValue_value_ne_nil s hc) ?_ (isValue_cutValue (c :: s))
    rintro ⟨key, rest, hk, heq⟩
    have happ := cutValue_append (c :: s)
    rw [heq, List.append_assoc, List.cons_append] at happ
    exact cutKey?_eq_none_iff.mp hcut ⟨key, _, hk, happ.symm⟩

theorem boundary_cutLexeme (s : Text) : Boundary (cutLexeme s).1.closed (cutLexeme s).2 := by
  unfold cutLexeme
  split
  · next key rest hcut => exact boundary_cutValue rest
  · exact boundary_cutValue s

/-- The lexeme at the front of a text is the one of the grammar that ends at a boundary. -/
theorem cutLexeme_eq_iff {c : Char} {s rest : Text} {l : Lexeme} (hc : isBlank c = false) :
    cutLexeme (c :: s) = (l, rest) ↔
      l.Valid ∧ Boundary l.closed rest ∧ l.text ++ rest = c :: s := by
  constructor
  · intro h
    have hv := valid_cutLexeme s hc
    have hb := boundary_cutLexeme (c :: s)
    have happ := cutLexeme_append (c :: s)
    rw [h] at hv hb happ
    exact ⟨hv, hb, happ⟩
  · rintro ⟨hv, hb, happ⟩
    rw [← happ, hv.cut hb]

end LogFilter
