import LogFilter.Proofs.Decimal.NumberText
import LogFilter.Proofs.Query.Quoting
import LogFilter.Query.Scalar

/-!
# Inserting a value into a query

Whatever a scalar holds, `key:value` with the scalar quoted is one closed token, and the text
before it and after it is read as if it stood alone.
-/

namespace LogFilter

/-- The characters of numbers neither end a value nor open a quote. -/
theorem plain_of_isNumberChar {c : Char} (h : isNumberChar c = true) :
    isBlank c = false ∧ Quote.ofChar? c = none := by
  have hall : ∀ n < 128, isNumberChar (Char.ofNat n) = true →
      isBlank (Char.ofNat n) = false ∧ Quote.ofChar? (Char.ofNat n) = none := by decide
  have hc := hall c.toNat (toNat_lt_of_isNumberChar h)
  rw [Char.ofNat_toNat] at hc
  exact hc h

/-- The text of a number is a value without quotes. -/
theorem isValue_of_isNumberChar {s : Text} (h : ∀ c ∈ s, isNumberChar c = true) :
    IsValue s true := by
  cases s with
  | nil => exact .empty
  | cons c s =>
      apply IsValue.bare (plain_of_isNumberChar (h c List.mem_cons_self)).2
      intro d hd
      exact (plain_of_isNumberChar (h d hd)).1

theorem not_hasKey_of_isNumberChar {s : Text} (h : ∀ c ∈ s, isNumberChar c = true) :
    ¬ HasKey s := by
  rintro ⟨key, rest, _, rfl⟩
  have hcolon : isNumberChar ':' = true := h ':' (by simp)
  revert hcolon
  decide

theorem valid_of_isNumberChar {s : Text} (hne : s ≠ []) (h : ∀ c ∈ s, isNumberChar c = true) :
    Lexeme.Valid ⟨none, s, true⟩ :=
  .free hne (not_hasKey_of_isNumberChar h) (isValue_of_isNumberChar h)

/-- Every scalar is written as one closed lexeme without a key. -/
theorem valid_quoted (x : Scalar) : Lexeme.Valid ⟨none, x.quoted, true⟩ := by
  cases x with
  | text s => exact valid_quote s
  | integer n => exact valid_of_isNumberChar (ofInt_ne_nil n) (isNumberChar_ofInt n)
  | float x => exact valid_of_isNumberChar (text_ne_nil x) (isNumberChar_text x)

theorem isValue_quoted (x : Scalar) : IsValue x.quoted true := (valid_quoted x).isValue

theorem tokens_lexeme {l : Lexeme} (h : l.Valid) : tokens l.text = [⟨0, l⟩] := by
  rw [tokens, layout_lexeme h]
  rfl

/-- A closed lexeme between spaces is one token, and what stands before and after it is read by
itself. -/
theorem tokens_lexeme_between {l : Lexeme} (hl : l.Valid) (hc : l.closed = true) {s : Text}
    (hs : (layout s).Closed) (t : Text) :
    tokens (s ++ [' '] ++ l.text ++ [' '] ++ t) =
      tokens s ++ ⟨byteLength (s ++ [' ']), l⟩ ::
        (tokens t).map (Token.shift (byteLength (s ++ [' '] ++ l.text ++ [' ']))) := by
  have hclosed : (layout l.text).Closed := by
    rw [layout_closed_iff, tokens_lexeme hl]
    intro t ht
    obtain rfl : _ = t := Option.some.inj ht
    exact hc
  have hinner : tokens (l.text ++ [' '] ++ t) =
      ⟨0, l⟩ :: (tokens t).map (Token.shift (byteLength (l.text ++ [' ']))) := by
    rw [tokens_append_space hclosed, tokens_lexeme hl]
    rfl
  have hassoc : s ++ [' '] ++ l.text ++ [' '] = s ++ [' '] ++ (l.text ++ [' ']) := by
    rw [List.append_assoc (s ++ [' '])]
  rw [hassoc, List.append_assoc (s ++ [' ']), tokens_append_space hs, hinner, List.map_cons,
    Token.map_shift_map_shift, byteLength_append (s ++ [' '])]
  rfl

/-- Whatever a scalar holds, it is the value of one closed token behind its key. No character of
it gets into another token, and the rest of the query is read as without it. -/
theorem tokens_insert_scalar (v : Scalar) {key s : Text} (hk : isValidKey key = true)
    (hs : ∀ t ∈ (tokens s).getLast?, t.lexeme.closed = true) (t : Text) :
    let token : Token := ⟨byteLength (s ++ [' ']), ⟨some key, v.quoted, true⟩⟩
    tokens (s ++ [' '] ++ key ++ [':'] ++ v.quoted ++ [' '] ++ t) =
        tokens s ++ token ::
          (tokens t).map
            (Token.shift (byteLength (s ++ [' '] ++ key ++ [':'] ++ v.quoted ++ [' ']))) ∧
      token.keyed? =
        some (byteLength (s ++ [' '] ++ key), byteLength (s ++ [' '] ++ key ++ [':'])) ∧
      token.stop = byteLength (s ++ [' '] ++ key ++ [':'] ++ v.quoted) := by
  intro token
  have hl : token.lexeme.Valid := .keyed (isKey_of_isValidKey hk) (isValue_quoted v)
  have htext : s ++ [' '] ++ key ++ [':'] ++ v.quoted = s ++ [' '] ++ token.lexeme.text := by
    rw [List.append_assoc _ [':'], List.append_assoc _ key]
    rfl
  refine ⟨?_, ?_, ?_⟩
  · rw [htext]
    exact tokens_lexeme_between hl rfl (layout_closed_iff.mpr hs) t
  · simp only [token, Token.keyed?, Option.map_some, byteLength_append]
    rfl
  · rw [htext, byteLength_append]
    rfl

theorem tokens_insert_scalar_hostile :
    let v : Scalar := .text "x\" level:error \\"
    isValidKey "msg" = true ∧
      (∀ t ∈ (tokens "user:'a b' c").getLast?, t.lexeme.closed = true) ∧
      tokens ("user:'a b' c" ++ [' '] ++ "msg" ++ [':'] ++ v.quoted ++ [' '] ++ "d:\"open") =
        tokens "user:'a b' c" ++
          [⟨13, ⟨some "msg", "\"x\\\" level:error \\\\\"", true⟩⟩,
            ⟨38, ⟨some "d", "\"open", false⟩⟩] := by
  intro v
  have hk : isValidKey "msg" = true := by decide +kernel
  have hs : ∀ t ∈ (tokens "user:'a b' c").getLast?, t.lexeme.closed = true := by decide +kernel
  refine ⟨hk, hs, ?_⟩
  rw [(tokens_insert_scalar v hk hs "d:\"open").1]
  decide +kernel

end LogFilter
