import LogFilter.Proofs.Query.Places
import LogFilter.Proofs.Query.Segments
import LogFilter.Query.Scanner
import Mathlib.Logic.Relation

/-!
# Escapes as they are scanned and as they are undone

Between double quotes each step of the scanner takes one unit. Unescaping looks behind a backslash
for a partner of two kinds only, and goes on with the next character otherwise; still it undoes the
same units, one by one (`unquote_segment`). A value without escapes is a slice of its token.
-/

namespace LogFilter

/-! ## Units of a segment -/

/-- The units between double quotes: a character other than a backslash or a double quote, and a
backslash with any character. -/
inductive IsSegmentUnit : Text → Prop where
  | plain {c} (hb : c ≠ '\\') (hq : c ≠ '"') : IsSegmentUnit [c]
  | pair (c : Char) : IsSegmentUnit ['\\', c]

/-- Whether a text is made of such units. -/
def IsSegment (s : Text) : Prop :=
  ∃ us : List Text, (∀ u ∈ us, IsSegmentUnit u) ∧ us.flatten = s

/-- The units are the ones that are found from left to right. -/
theorem units_flatten {us : List Text} (hus : ∀ u ∈ us, IsSegmentUnit u) :
    units us.flatten = us := by
  induction us with
  | nil => exact units_nil
  | cons u us ih =>
      obtain ⟨hu, hrest⟩ := List.forall_mem_cons.mp hus
      rw [List.flatten_cons]
      cases hu with
      | plain hb hq => rw [List.singleton_append, units_cons _ hb, ih hrest]
      | pair c => rw [List.cons_append, List.singleton_append, units_pair, ih hrest]

theorem isSegment_nil : IsSegment [] := ⟨[], nofun, rfl⟩

theorem IsSegmentUnit.append {u s : Text} (hu : IsSegmentUnit u) (hs : IsSegment s) :
    IsSegment (u ++ s) := by
  obtain ⟨us, hus, rfl⟩ := hs
  exact ⟨u :: us, List.forall_mem_cons.mpr ⟨hu, hus⟩, rfl⟩

theorem Quote.Inner.isSegment {q : Quote} {s : Text} (h : q.Inner s) (hq : q = .double) :
    IsSegment s := by
  induction h with
  | nil => exact isSegment_nil
  | plain hc hb _ ih =>
      subst hq
      exact (IsSegmentUnit.plain (hb rfl) hc).append (ih rfl)
  | pair c _ ih => exact (IsSegmentUnit.pair c).append (ih rfl)

theorem IsSegment.inner {s : Text} (h : IsSegment s) : Quote.Inner .double s := by
  obtain ⟨us, hus, rfl⟩ := h
  induction us with
  | nil => exact .nil _
  | cons u us ih =>
      obtain ⟨hu, hrest⟩ := List.forall_mem_cons.mp hus
      cases hu with
      | plain hb hq => exact .plain hq (fun _ => hb) (ih hrest)
      | pair c => exact .pair c (ih hrest)

theorem isSegment_iff_inner {s : Text} : IsSegment s ↔ Quote.Inner .double s :=
  ⟨IsSegment.inner, fun h => h.isSegment rfl⟩

/-- The closing quote is cut off behind a text exactly if the text is made of units. -/
theorem close_eq_some_iff_isSegment (s rest : Text) :
    Quote.close .double (s ++ '"' :: rest) = some (s ++ ['"'], rest) ↔ IsSegment s := by
  rw [isSegment_iff_inner]
  constructor
  · intro h
    obtain ⟨inner, hi, hclosed, _⟩ := Quote.exists_inner_of_close h
    obtain rfl : s = inner := List.append_cancel_right hclosed
    exact hi
  · intro h
    exact h.close rest

/-! ## The scanner between double quotes -/

namespace Scanner

/-- Whether steps in a token that starts at `start` lead from one scanner to the other. -/
def Reaches (start : Nat) : Scanner → Scanner → Prop :=
  Relation.ReflTransGen fun m next => m.step start = some next

variable {start pos : Nat} {keyed? : Option (Nat × Nat)}

theorem step_pair (c : Char) (s : Text) :
    step start ⟨.quoted .double, pos, '\\' :: c :: s, keyed?⟩ =
      some ⟨.quoted .double, pos + byteLength ['\\', c], s, keyed?⟩ := by
  rw [step, Nat.add_assoc]
  rfl

theorem step_plain {c : Char} (hb : c ≠ '\\') (hq : c ≠ '"') (s : Text) :
    step start ⟨.quoted .double, pos, c :: s, keyed?⟩ =
      some ⟨.quoted .double, pos + byteLength [c], s, keyed?⟩ := by
  rw [step]
  · exact if_neg hq
  · intro _ _ _ hbs
    exact (hb hbs).elim

/-- Between double quotes a step takes one unit. -/
theorem step_unit {u : Text} (hu : IsSegmentUnit u) (s : Text) :
    step start ⟨.quoted .double, pos, u ++ s, keyed?⟩ =
      some ⟨.quoted .double, pos + byteLength u, s, keyed?⟩ := by
  cases hu with
  | plain hb hq => exact step_plain hb hq s
  | pair c => exact step_pair c s

/-- A step between double quotes takes one unit or the closing quote, or the lone backslash at the
end of a text that is left open. -/
theorem step_double {s : Text} {next : Scanner}
    (h : step start ⟨.quoted .double, pos, s, keyed?⟩ = some next) :
    (∃ u, IsSegmentUnit u ∧ s = u ++ next.rest ∧ next.state = .quoted .double) ∨
      next.state = .word ∨ next.rest = [] := by
  cases s with
  | nil => cases h
  | cons c s =>
      by_cases hbs : c = '\\'
      · subst hbs
        cases s with
        | nil =>
            obtain rfl := Option.some.inj h
            exact .inr (.inr rfl)
        | cons d s =>
            rw [step_pair] at h
            obtain rfl := Option.some.inj h
            exact .inl ⟨_, .pair d, rfl, rfl⟩
      · by_cases hq : c = '"'
        · subst hq
          obtain rfl := Option.some.inj h
          exact .inr (.inl rfl)
        · rw [step_plain hbs hq] at h
          obtain rfl := Option.some.inj h
          exact .inl ⟨_, .plain hbs hq, rfl, rfl⟩

/-- A word is never left for quotes. -/
theorem Reaches.word {m n : Scanner} (h : Reaches start m n) (hm : m.state = .word) :
    n.state = .word := by
  induction h with
  | refl => exact hm
  | @tail m n _ hstep ih =>
      obtain ⟨state, pos, rest, keyed?⟩ := m
      obtain rfl : state = .word := ih
      cases rest with
      | nil => cases hstep
      | cons c s =>
          simp only [step] at hstep
          split at hstep
          · cases hstep
          · obtain rfl := Option.some.inj hstep
            rfl

theorem Reaches.length_rest_le {m n : Scanner} (h : Reaches start m n) :
    n.rest.length ≤ m.rest.length := by
  induction h with
  | refl => exact Nat.le_refl _
  | tail _ hstep ih => exact Nat.le_trans (length_rest_step_le hstep) ih

/-- A scanner that is between double quotes before and after some steps, with text left to read, has
read units in all of them. -/
theorem Reaches.exists_segment {m n : Scanner} (h : Reaches start m n)
    (hm : m.state = .quoted .double) (hn : n.state = .quoted .double) (hrest : n.rest ≠ []) :
    ∃ s, IsSegment s ∧ m.rest = s ++ n.rest := by
  induction h using Relation.ReflTransGen.head_induction_on with
  | refl => exact ⟨[], isSegment_nil, rfl⟩
  | @head m next hstep hreach ih =>
      obtain ⟨state, pos, rest, keyed?⟩ := m
      obtain rfl : state = .quoted .double := hm
      rcases step_double hstep with ⟨u, hu, rfl, hnext⟩ | hword | hend
      · obtain ⟨s, hs, htext⟩ := ih hnext
        exact ⟨u ++ s, hu.append hs, by rw [htext, List.append_assoc]⟩
      · have hstate : n.state = .word := Reaches.word hreach hword
        rw [hn] at hstate
        cases hstate
      · have hle := Reaches.length_rest_le hreach
        rw [hend] at hle
        exact (hrest (List.eq_nil_of_length_eq_zero (Nat.le_zero.mp hle))).elim

/-- Units are read one after the other, whatever follows. -/
theorem reaches_flatten {us : List Text} (hus : ∀ u ∈ us, IsSegmentUnit u) (s : Text) :
    Reaches start ⟨.quoted .double, pos, us.flatten ++ s, keyed?⟩
      ⟨.quoted .double, pos + byteLength us.flatten, s, keyed?⟩ := by
  induction us generalizing pos with
  | nil => exact .refl
  | cons u us ih =>
      obtain ⟨hu, hrest⟩ := List.forall_mem_cons.mp hus
      rw [List.flatten_cons, List.append_assoc, byteLength_append, ← Nat.add_assoc]
      exact .head (step_unit hu _) (ih hrest)

/-- The scanner comes to a double quote, still between the quotes, exactly behind units. -/
theorem reaches_quote_iff (s rest : Text) :
    Reaches start ⟨.quoted .double, pos, s ++ '"' :: rest, keyed?⟩
        ⟨.quoted .double, pos + byteLength s, '"' :: rest, keyed?⟩ ↔ IsSegment s := by
  constructor
  · intro h
    obtain ⟨t, ht, heq⟩ := h.exists_segment rfl rfl (List.cons_ne_nil _ _)
    rwa [List.append_cancel_right heq]
  · rintro ⟨us, hus, rfl⟩
    exact reaches_flatten hus _

end Scanner

/-! ## Undoing units -/

/-- What a unit stands for. -/
def decodeUnit : Text → Text
  | ['\\', '"'] => ['"']
  | ['\\', '\\'] => ['\\']
  | u => u

theorem decodeUnit_plain (c : Char) : decodeUnit [c] = [c] := by
  rw [decodeUnit] <;> nofun

theorem decodeUnit_pair {c : Char} (hb : c ≠ '\\') (hq : c ≠ '"') :
    decodeUnit ['\\', c] = ['\\', c] := by
  rw [decodeUnit]
  · rintro ⟨⟩
    exact hq rfl
  · rintro ⟨⟩
    exact hb rfl

theorem unescape_cons {c : Char} (hc : c ≠ '\\') (s : Text) :
    unescape (c :: s) = c :: unescape s := by
  rw [unescape]
  · intro _ hbs
    exact (hc hbs).elim
  · intro _ hbs
    exact (hc hbs).elim

theorem unescape_unit {u : Text} (hu : IsSegmentUnit u) (s : Text) :
    unescape (u ++ s) = decodeUnit u ++ unescape s := by
  cases hu with
  | @plain c hb hq =>
      rw [decodeUnit_plain]
      exact unescape_cons hb s
  | pair c =>
      by_cases hb : c = '\\'
      · subst hb
        rfl
      · by_cases hq : c = '"'
        · subst hq
          rfl
        · -- the backslash is copied alone, and then the character after it is read as if by itself
          have hcopy : unescape ('\\' :: c :: s) = '\\' :: unescape (c :: s) := by
            rw [unescape]
            · intro _ _ ht
              exact hb (List.cons.inj ht).1
            · intro _ _ ht
              exact hq (List.cons.inj ht).1
          rw [decodeUnit_pair hb hq, List.cons_append, List.singleton_append, hcopy,
            unescape_cons hb]
          rfl

theorem unescape_flatten {us : List Text} (hus : ∀ u ∈ us, IsSegmentUnit u) :
    unescape us.flatten = us.flatMap decodeUnit := by
  induction us with
  | nil => rfl
  | cons u us ih =>
      obtain ⟨hu, hrest⟩ := List.forall_mem_cons.mp hus
      rw [List.flatten_cons, List.flatMap_cons, unescape_unit hu, ih hrest]

theorem unescape_of_not_mem {s : Text} (h : '\\' ∉ s) : unescape s = s := by
  induction s with
  | nil => rfl
  | cons c s ih =>
      obtain ⟨hc, hs⟩ := List.ne_and_not_mem_of_not_mem_cons h
      rw [unescape_cons hc.symm, ih hs]

/-! ## Slices between quotes -/

/-- The value of a token by the byte offsets of its quotes, copied only if there may be something to
undo in it. -/
def unquoteByOffsets? (s : Text) : Option Text :=
  if isQuotedBy .double s then
    (s.slice? 1 (byteLength s - 1)).map fun inner =>
      if '\\' ∈ inner then unescape inner else inner
  else if isQuotedBy .single s then s.slice? 1 (byteLength s - 1)
  else some s

theorem utf8Size_quote (q : Quote) : q.char.utf8Size = 1 := by
  cases q <;> decide

theorem slice?_between_quotes (q : Quote) (s : Text) :
    Text.slice? (q.char :: (s ++ [q.char])) 1 (1 + byteLength s) = some s := by
  refine Text.slice?_eq_some_iff.mpr ⟨[q.char], [q.char], rfl, ?_, rfl⟩
  simp [utf8Size_quote]

theorem IsQuotedToken.exists_between {q : Quote} {s : Text} (h : IsQuotedToken q s) :
    ∃ t, s = q.char :: (t ++ [q.char]) := by
  obtain ⟨inner, word, _, _, hlast, rfl⟩ := h
  rcases List.eq_nil_or_concat' word with rfl | ⟨front, c, rfl⟩
  · exact ⟨inner, rfl⟩
  · obtain rfl : c = q.char := hlast c List.getLast?_concat
    exact ⟨inner ++ q.char :: front, by simp⟩

theorem slice?_inside {q : Quote} {s : Text} (h : isQuotedBy q s = true) :
    s.slice? 1 (byteLength s - 1) = some (inside s) := by
  obtain ⟨t, rfl⟩ := (isQuotedBy_iff.mp h).exists_between
  have hlen : byteLength (q.char :: (t ++ [q.char])) - 1 = 1 + byteLength t := by
    simp only [byteLength_cons, byteLength_append, byteLength_nil, utf8Size_quote]
    omega
  rw [hlen, inside_wrap]
  exact slice?_between_quotes q t

/-- The slice is always there, and what is not copied has nothing to undo. -/
theorem unquoteByOffsets?_eq (s : Text) : unquoteByOffsets? s = some (unquote s) := by
  rw [unquoteByOffsets?, unquote]
  split
  · next hdouble =>
    rw [slice?_inside hdouble, Option.map_some]
    split
    · rfl
    · next hbs => rw [unescape_of_not_mem hbs]
  · split
    · next hsingle => exact slice?_inside hsingle
    · rfl

/-! ## The value of a segment -/

theorem IsSegment.isQuotedBy {s : Text} (h : IsSegment s) :
    isQuotedBy .double ('"' :: (s ++ ['"'])) = true :=
  isQuotedBy_iff.mpr ⟨s, [], h.inner, isWord_nil, nofun, rfl⟩

/-- The scanner, behind a double quote, comes to the quote that closes it exactly if it has read
units: the same texts behind which the closing quote is cut off. Between quotes such a text is a
value, with every unit decoded; without backslashes the slice between the quotes is all that
unescaping gives. -/
theorem unquote_segment (start pos : Nat) (keyed? : Option (Nat × Nat)) (s rest : Text) :
    (Scanner.Reaches start ⟨.quoted .double, pos, s ++ '"' :: rest, keyed?⟩
        ⟨.quoted .double, pos + byteLength s, '"' :: rest, keyed?⟩ ↔ IsSegment s) ∧
      (Quote.close .double (s ++ '"' :: rest) = some (s ++ ['"'], rest) ↔ IsSegment s) ∧
      ∀ us : List Text, (∀ u ∈ us, IsSegmentUnit u) → us.flatten = s →
        units s = us ∧ unquote ('"' :: (s ++ ['"'])) = us.flatMap decodeUnit ∧
          unquoteByOffsets? ('"' :: (s ++ ['"'])) = some (us.flatMap decodeUnit) ∧
          ('\\' ∉ s →
            Text.slice? ('"' :: (s ++ ['"'])) 1 (1 + byteLength s) = some (unescape s)) := by
  refine ⟨Scanner.reaches_quote_iff s rest, close_eq_some_iff_isSegment s rest, ?_⟩
  rintro us hus rfl
  have hquoted := IsSegment.isQuotedBy ⟨us, hus, rfl⟩
  have hvalue : unquote ('"' :: (us.flatten ++ ['"'])) = us.flatMap decodeUnit := by
    rw [unquote_of_double hquoted, inside_wrap, unescape_flatten hus]
  refine ⟨units_flatten hus, hvalue, ?_, ?_⟩
  · rw [unquoteByOffsets?_eq, hvalue]
  · intro hbs
    rw [unescape_of_not_mem hbs]
    exact slice?_between_quotes .double us.flatten

/-- Backslashes in runs of either parity, and a value without any. -/
theorem unquote_segment_backslashes :
    let us : List Text := ["a", "\\\\", "\\\"", "é", "\\n", "\\\\", "\\\\", "\\\""]
    let s : Text := "a\\\\\\\"é\\n\\\\\\\\\\\""
    let t : Text := "it's é"
    (∀ u ∈ us, IsSegmentUnit u) ∧ us.flatten = s ∧
      Scanner.Reaches 0 (.enter 0 '"' (s ++ ['"']))
        ⟨.quoted .double, 1 + byteLength s, ['"'], none⟩ ∧
      unquote ('"' :: (s ++ ['"'])) = ("a\\\"é\\n\\\\\"" : Text) ∧
      '\\' ∉ t ∧ Text.slice? ('"' :: (t ++ ['"'])) 1 (1 + byteLength t) = some (unescape t) := by
  intro us s t
  have hus : ∀ u ∈ us, IsSegmentUnit u := by
    simp only [us, List.forall_mem_cons]
    exact ⟨.plain (by decide) (by decide), .pair _, .pair _, .plain (by decide) (by decide),
      .pair _, .pair _, .pair _, .pair _, nofun⟩
  have hs : us.flatten = s := rfl
  have ht : '\\' ∉ t := by decide
  have htunits : ∀ u ∈ t.map ([·]), IsSegmentUnit u := by
    intro u hu
    obtain ⟨c, hc, rfl⟩ := List.mem_map.mp hu
    have hq : '"' ∉ t := by decide
    exact .plain (ne_of_mem_of_not_mem hc ht) (ne_of_mem_of_not_mem hc hq)
  obtain ⟨hscan, -, hvalue⟩ := unquote_segment 0 1 none s []
  obtain ⟨-, -, -, hslice⟩ := (unquote_segment 0 1 none t []).2.2 _ htunits rfl
  exact ⟨hus, hs, hscan.mpr ⟨us, hus, hs⟩, (hvalue us hus hs).2.1, ht, hslice ht⟩

end LogFilter
