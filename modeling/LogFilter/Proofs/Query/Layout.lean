import LogFilter.Proofs.Query.Lexeme

/-!
# The grammar of layouts

Lexemes and gaps make up a layout if every lexeme ends at a boundary. A text has exactly one such
layout, the one that `layout` gives (`layout_eq_iff`). Two texts that meet at a blank are cut into
lexemes apart from each other (`layout_append`, `tokens_append`).
-/

namespace LogFilter

/-- Pieces, and blanks after the last one, in which every lexeme ends at a boundary. -/
inductive Laid : List Piece → Text → Prop where
  | trailing {s} (hs : IsGap s) : Laid [] s
  | piece {gap l pieces s} (hg : IsGap gap) (hl : l.Valid)
      (hb : Boundary l.closed (Layout.text ⟨pieces, s⟩)) :
      Laid pieces s → Laid (⟨gap, l⟩ :: pieces) s

def Layout.Valid (l : Layout) : Prop := Laid l.pieces l.trailing

@[simp] theorem Layout.text_nil (s : Text) : Layout.text ⟨[], s⟩ = s := rfl

@[simp] theorem Layout.text_cons (p : Piece) (pieces : List Piece) (s : Text) :
    Layout.text ⟨p :: pieces, s⟩ = p.gap ++ (p.lexeme.text ++ Layout.text ⟨pieces, s⟩) := by
  simp [Layout.text]

/-- The pieces of a text and the blanks at its end make up the text. -/
theorem text_pieces_layout (s : Text) :
    Layout.text ⟨(layout s).pieces, (layout s).trailing⟩ = s :=
  layout_text s

/-! ## Cutting -/

theorem layout_of_isGap {s : Text} (h : IsGap s) : layout s = ⟨[], s⟩ := by
  have hdrop : s.dropWhile isBlank = [] := by simpa using h.dropWhile_append []
  rw [layout]
  split
  · rfl
  · next c rest hcut =>
    rw [hdrop] at hcut
    cases hcut

/-- The first lexeme of a text, and then the layout of what follows its boundary. -/
theorem layout_of_lexeme {gap rest : Text} {l : Lexeme} (hg : IsGap gap) (hl : l.Valid)
    (hb : Boundary l.closed rest) :
    layout (gap ++ (l.text ++ rest)) =
      ⟨⟨gap, l⟩ :: (layout rest).pieces, (layout rest).trailing⟩ := by
  obtain ⟨c, s, htext, hc⟩ := hl.exists_cons
  have hcons : l.text ++ rest = c :: (s ++ rest) := by rw [htext, List.cons_append]
  have hdrop : (gap ++ (l.text ++ rest)).dropWhile isBlank = c :: (s ++ rest) := by
    rw [hg.dropWhile_append, hcons]
    simp [hc]
  have htake : (gap ++ (l.text ++ rest)).takeWhile isBlank = gap := by
    rw [hg.takeWhile_append, hcons]
    simp [hc]
  have hcut : cutLexeme (c :: (s ++ rest)) = (l, rest) := by rw [← hcons, hl.cut hb]
  rw [layout]
  split
  · next hnil =>
    rw [hdrop] at hnil
    cases hnil
  · next d t hd =>
    rw [hdrop] at hd
    obtain ⟨rfl, rfl⟩ := List.cons.inj hd
    simp only [hcut, htake]

theorem layout_valid (s : Text) : (layout s).Valid := by
  fun_induction layout s with
  | case1 s h =>
      apply Laid.trailing
      have hs := isGap_takeWhile s
      have happ := List.takeWhile_append_dropWhile (p := isBlank) (l := s)
      rw [h, List.append_nil] at happ
      rwa [happ] at hs
  | case2 s c rest h tail ih =>
      have hc := isBlank_of_dropWhile h
      refine .piece (isGap_takeWhile s) (valid_cutLexeme rest hc) ?_ ih
      rw [text_pieces_layout]
      exact boundary_cutLexeme (c :: rest)

theorem Laid.cut {pieces : List Piece} {s : Text} (h : Laid pieces s) :
    layout (Layout.text ⟨pieces, s⟩) = ⟨pieces, s⟩ := by
  induction h with
  | trailing hs => exact layout_of_isGap hs
  | piece hg hl hb _ ih => rw [Layout.text_cons, layout_of_lexeme hg hl hb, ih]

/-- A text has one layout. -/
theorem layout_eq_iff {s : Text} {l : Layout} : layout s = l ↔ l.Valid ∧ l.text = s := by
  constructor
  · rintro rfl
    exact ⟨layout_valid s, layout_text s⟩
  · rintro ⟨hl, rfl⟩
    exact hl.cut

theorem layout_lexeme {l : Lexeme} (h : l.Valid) : layout l.text = ⟨[⟨[], l⟩], []⟩ :=
  layout_eq_iff.mpr ⟨.piece isGap_nil h (boundary_nil _) (.trailing isGap_nil), by simp⟩

/-! ## Two layouts in a row -/

namespace Layout

/-- The layout of two texts in a row that meet at a blank. -/
def append (a b : Layout) : Layout :=
  match b.pieces with
  | [] => ⟨a.pieces, a.trailing ++ b.trailing⟩
  | p :: pieces => ⟨a.pieces ++ ⟨a.trailing ++ p.gap, p.lexeme⟩ :: pieces, b.trailing⟩

/-- Whether no quote is left open, which only the last lexeme can do. -/
def Closed (l : Layout) : Prop := ∀ p ∈ l.pieces.getLast?, p.lexeme.closed = true

theorem cons_append (p : Piece) (pieces : List Piece) (s : Text) (b : Layout) :
    append ⟨p :: pieces, s⟩ b =
      ⟨p :: (append ⟨pieces, s⟩ b).pieces, (append ⟨pieces, s⟩ b).trailing⟩ := by
  unfold append
  cases b.pieces <;> rfl

theorem text_append (a b : Layout) : (a.append b).text = a.text ++ b.text := by
  obtain ⟨pieces, s⟩ := b
  cases pieces with
  | nil => simp [append, text]
  | cons p pieces => simp [append, text]

end Layout

theorem IsGap.layout_append {gap : Text} (h : IsGap gap) (s : Text) :
    layout (gap ++ s) = Layout.append ⟨[], gap⟩ (layout s) := by
  have hl : Laid (layout s).pieces (layout s).trailing := layout_valid s
  have hs := layout_text s
  generalize layout s = l at hl hs
  obtain ⟨pieces, t⟩ := l
  rw [layout_eq_iff, Layout.text_append, Layout.text_nil, hs]
  refine ⟨?_, rfl⟩
  cases hl with
  | trailing ht => exact .trailing (h.append ht)
  | piece hg hv hb hl => exact .piece (h.append hg) hv hb hl

/-- No lexeme fits into an empty text. -/
theorem Laid.eq_nil {pieces : List Piece} {s : Text} (h : Laid pieces s)
    (hs : Layout.text ⟨pieces, s⟩ = []) : pieces = [] ∧ s = [] := by
  cases h with
  | trailing => exact ⟨rfl, hs⟩
  | piece _ hv _ _ =>
      obtain ⟨c, rest, heq, _⟩ := hv.exists_cons
      simp [heq] at hs

theorem Boundary.append {closed : Bool} {s t : Text} (hs : Boundary closed s)
    (ht : s = [] → Boundary closed t) : Boundary closed (s ++ t) := by
  cases s with
  | nil => exact ht rfl
  | cons c s =>
      cases closed with
      | true => exact hs
      | false => cases hs

theorem Laid.layout_append {pieces : List Piece} {s t : Text} (h : Laid pieces s)
    (hs : Layout.Closed ⟨pieces, s⟩) (ht : Boundary true t) :
    layout (Layout.text ⟨pieces, s⟩ ++ t) =
      Layout.append ⟨pieces, s⟩ (layout t) := by
  induction h with
  | trailing hg => exact hg.layout_append t
  | @piece gap l pieces s hg hv hb hl ih =>
      have htail : Layout.Closed ⟨pieces, s⟩ := by
        intro p hp
        apply hs p
        cases pieces with
        | nil => cases hp
        | cons q pieces => simpa using hp
      have hb' : Boundary l.closed (Layout.text ⟨pieces, s⟩ ++ t) := by
        apply hb.append
        intro hnil
        obtain ⟨rfl, rfl⟩ := hl.eq_nil hnil
        rwa [show l.closed = true from hs ⟨gap, l⟩ rfl]
      rw [Layout.text_cons, Layout.cons_append, List.append_assoc, List.append_assoc,
        layout_of_lexeme hg hv hb', ih htail]

/-- Where no quote is left open, what follows a blank is cut as if it stood alone. -/
theorem layout_append {s t : Text} (hs : (layout s).Closed) (ht : Boundary true t) :
    layout (s ++ t) = (layout s).append (layout t) := by
  have hl : Laid (layout s).pieces (layout s).trailing := layout_valid s
  have h := hl.layout_append hs ht
  rwa [text_pieces_layout] at h

/-! ## Tokens -/

namespace Token

/-- The same token behind `n` more bytes. -/
def shift (n : Nat) (t : Token) : Token := { t with start := n + t.start }

theorem map_shift_map_shift (m n : Nat) (ts : List Token) :
    (ts.map (shift n)).map (shift m) = ts.map (shift (m + n)) := by
  rw [List.map_map]
  apply List.map_congr_left
  intro t _
  simp only [Function.comp_apply, shift, Nat.add_assoc]

end Token

theorem tokensFrom_add (n offset : Nat) (pieces : List Piece) :
    tokensFrom (n + offset) pieces = (tokensFrom offset pieces).map (Token.shift n) := by
  induction pieces generalizing offset with
  | nil => rfl
  | cons p pieces ih =>
      simp only [tokensFrom, List.map_cons, Token.shift, Nat.add_assoc, ih]

theorem tokensFrom_append (a b : Layout) (offset : Nat) :
    tokensFrom offset (a.append b).pieces =
      tokensFrom offset a.pieces ++ tokensFrom (offset + byteLength a.text) b.pieces := by
  obtain ⟨pieces, s⟩ := a
  induction pieces generalizing offset with
  | nil =>
      obtain ⟨pieces, t⟩ := b
      cases pieces with
      | nil => rfl
      | cons p pieces => simp [Layout.append, tokensFrom, Nat.add_assoc]
  | cons p pieces ih =>
      rw [Layout.cons_append, tokensFrom, tokensFrom, List.cons_append, ih]
      simp only [Layout.text_cons, byteLength_append, Nat.add_assoc]

/-- The tokens of two texts that meet at a blank are those of both, each read by itself. -/
theorem tokens_append {s t : Text} (hs : (layout s).Closed) (ht : Boundary true t) :
    tokens (s ++ t) = tokens s ++ (tokens t).map (Token.shift (byteLength s)) := by
  rw [tokens, layout_append hs ht, tokensFrom_append, layout_text, Nat.zero_add, tokens, tokens,
    ← tokensFrom_add, Nat.add_zero]

theorem tokens_gap {gap : Text} (h : IsGap gap) (s : Text) :
    tokens (gap ++ s) = (tokens s).map (Token.shift (byteLength gap)) := by
  rw [tokens, h.layout_append, tokensFrom_append, tokens, Nat.zero_add, Layout.text_nil,
    ← tokensFrom_add, Nat.add_zero]
  rfl

theorem tokens_append_space {s : Text} (hs : (layout s).Closed) (t : Text) :
    tokens (s ++ [' '] ++ t) =
      tokens s ++ (tokens t).map (Token.shift (byteLength (s ++ [' ']))) := by
  have hb : Boundary true ([' '] ++ t) := boundary_blank isBlank_space t
  rw [List.append_assoc, tokens_append hs hb, tokens_gap isGap_space, Token.map_shift_map_shift,
    byteLength_append]

/-- The last token and the last piece are left open together. -/
theorem getLast?_tokensFrom (offset : Nat) (pieces : List Piece) :
    (tokensFrom offset pieces).getLast?.map Token.lexeme = pieces.getLast?.map Piece.lexeme := by
  induction pieces generalizing offset with
  | nil => rfl
  | cons p pieces ih =>
      cases pieces with
      | nil => rfl
      | cons q pieces =>
          have h := ih (offset + byteLength p.gap + byteLength p.lexeme.text)
          simpa [tokensFrom] using h

theorem layout_closed_iff {s : Text} :
    (layout s).Closed ↔ ∀ t ∈ (tokens s).getLast?, t.lexeme.closed = true := by
  have h := getLast?_tokensFrom 0 (layout s).pieces
  rw [← tokens] at h
  unfold Layout.Closed
  cases ht : (tokens s).getLast? <;> cases hp : (layout s).pieces.getLast? <;>
    simp_all

end LogFilter
