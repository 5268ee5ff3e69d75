import LogFilter.Proofs.Query.Insertion
import LogFilter.Proofs.Query.Scanner

/-!
# Laws of quoting

Unquoting undoes quoting on every text that is no quoted token, and quoting changes no quoted token
(`unquote_quote`). What quoting gives is always a quoted token, so that quoting a second time
changes nothing (`quote_quote`).
-/

namespace LogFilter

/-! ## Escaping in two passes -/

/-- The text with `new` for each `c`. -/
def Text.replace (c : Char) (new s : Text) : Text := s.flatMap fun d => if d = c then new else [d]

theorem Text.replace_cons (c d : Char) (new s : Text) :
    Text.replace c new (d :: s) = (if d = c then new else [d]) ++ Text.replace c new s := by
  rw [Text.replace, List.flatMap_cons, Text.replace]

theorem Text.replace_append (c : Char) (new s t : Text) :
    Text.replace c new (s ++ t) = Text.replace c new s ++ Text.replace c new t :=
  List.flatMap_append

/-- Escaping is one pass over the backslashes and then one over the quotes. The other way round, the
first pass would write backslashes for the second one to double. -/
theorem escape_eq_replace (s : Text) :
    escape s = Text.replace '"' ['\\', '"'] (Text.replace '\\' ['\\', '\\'] s) := by
  induction s with
  | nil => rfl
  | cons c s ih =>
      rw [escape, Text.replace_cons, Text.replace_append, ← ih]
      by_cases hbs : c = '\\'
      · subst hbs
        rfl
      · by_cases hq : c = '"'
        · subst hq
          rfl
        · simp [Text.replace, hbs, hq]

/-! ## Quoted tokens by the scanner -/

/-- If the scanner finds one closed token as long as the text, the text is one closed lexeme without
blanks around it. -/
theorem exists_layout_of_scan {s : Text} {keyed? : Option (Nat × Nat)}
    (h : scan s = [⟨0, byteLength s, keyed?, true⟩]) :
    ∃ l, layout s = ⟨[⟨[], l⟩], []⟩ ∧ l.closed = true := by
  have htext := layout_text s
  rw [scan_eq_map_span, tokens] at h
  generalize layout s = found at h htext
  obtain ⟨pieces, trailing⟩ := found
  cases pieces with
  | nil => cases h
  | cons p pieces =>
      obtain ⟨gap, l⟩ := p
      obtain ⟨hspan, hrest⟩ := List.cons.inj h
      cases pieces with
      | cons q pieces => cases hrest
      | nil =>
          -- the token is as long as the text, so that nothing is left for blanks
          have hstart : 0 + byteLength gap = 0 := congrArg Span.start hspan
          have hstop : 0 + byteLength gap + byteLength l.text = byteLength s :=
            congrArg Span.stop hspan
          have hlen := congrArg byteLength htext
          simp only [Layout.text_cons, Layout.text_nil, byteLength_append] at hlen
          obtain rfl : gap = [] := byteLength_eq_zero.mp (by omega)
          obtain rfl : trailing = [] := byteLength_eq_zero.mp (by omega)
          exact ⟨l, rfl, congrArg Span.closed hspan⟩

theorem IsQuotedToken.scan_eq {q : Quote} {s : Text} (h : IsQuotedToken q s) :
    scan s = [⟨0, byteLength s, none, true⟩] := by
  have htokens : tokens s = [⟨0, ⟨none, s, true⟩⟩] := tokens_lexeme h.valid
  rw [scan_eq_map_span, htokens]
  simp [Token.span, Token.stop, Token.keyed?, Lexeme.text_free]

/-- A text is a quoted token if it has the quotes at both ends and the scanner finds one token
without a key in it, closed and as long as the text. -/
theorem isQuotedBy_iff_scan {q : Quote} {s : Text} :
    isQuotedBy q s = true ↔
      2 ≤ byteLength s ∧ s.head? = some q.char ∧ s.getLast? = some q.char ∧
        scan s = [⟨0, byteLength s, none, true⟩] := by
  constructor
  · intro h
    have hscan := (isQuotedBy_iff.mp h).scan_eq
    simp only [isQuotedBy, isToken, Bool.and_eq_true, decide_eq_true_eq, beq_iff_eq] at h
    exact ⟨h.1.1.1, h.1.1.2, h.1.2, hscan⟩
  · rintro ⟨hlen, hhead, hlast, hscan⟩
    obtain ⟨l, hl, hclosed⟩ := exists_layout_of_scan hscan
    simp [isQuotedBy, isToken, hlen, hhead, hlast, hl, hclosed]

/-! ## Both ways -/

/-- Unquoting undoes quoting on the texts that are no quoted tokens. Quoted tokens are not quoted
again. -/
theorem unquote_quote (s : Text) :
    (isQuotedBy .double s = false → isQuotedBy .single s = false → unquote (quote s) = s) ∧
      ∀ q, isQuotedBy q s = true → quote s = s := by
  constructor
  · intro hdouble hsingle
    apply unquote_quote_of_not_isQuoted
    rw [isQuoted, hdouble, hsingle, Bool.or_false]
  · intro q hq
    exact quote_of_isQuoted (isQuoted_iff.mpr ⟨q, isQuotedBy_iff.mp hq⟩)

theorem unquote_quote_backslashes :
    let s : Text := "C:\\ \"a\" \\"
    let t : Text := "'it \"was\" \\'"
    (isQuotedBy .double s = false ∧ isQuotedBy .single s = false ∧ unquote (quote s) = s) ∧
      isQuotedBy .single t = true ∧ quote t = t := by
  intro s t
  have hdouble : isQuotedBy .double s = false := by decide +kernel
  have hsingle : isQuotedBy .single s = false := by decide +kernel
  have ht : isQuotedBy .single t = true := by decide +kernel
  exact ⟨⟨hdouble, hsingle, (unquote_quote s).1 hdouble hsingle⟩, ht, (unquote_quote t).2 _ ht⟩

/-- Quoting gives one token with quotes at its ends, which closes its quotes and is all of the text.
Such a token is not quoted again. -/
theorem quote_quote (s : Text) :
    (isQuotedBy .double (quote s) = true ∨ isQuotedBy .single (quote s) = true) ∧
      scan (quote s) = [⟨0, byteLength (quote s), none, true⟩] ∧ quote (quote s) = quote s := by
  obtain ⟨q, hq⟩ := exists_isQuotedToken_quote s
  have hquoted : isQuoted (quote s) = true := isQuoted_iff.mpr ⟨q, hq⟩
  obtain ⟨_, _, _, hscan⟩ := isQuotedBy_iff_scan.mp hq.isQuotedBy
  exact ⟨Bool.or_eq_true_iff.mp hquoted, hscan, quote_of_isQuoted hquoted⟩

end LogFilter
