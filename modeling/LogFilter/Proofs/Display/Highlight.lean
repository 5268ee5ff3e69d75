import LogFilter.Display.Highlight
import LogFilter.Proofs.Display.Painted
import LogFilter.Proofs.Query.Offsets

/-!
# What highlighting shows

Highlighting keeps the text for any clauses, those too that do not stand in it
(`highlight_keeps_text`). The clauses of the text itself are all painted (`highlight_parse`).

`highlight` takes the text apart from its front. A pass that cuts every piece out of the whole text,
by its offsets, never fails to find one and shows the same (`highlightByOffsets?_eq`).
-/

namespace LogFilter

/-! ## Finding a clause -/

namespace Clause

theorem start_le_stop {c : Clause} (h : c.start ≤ maxOffset) : c.start ≤ c.stop :=
  Nat.le_min.mpr ⟨Nat.le_add_right _ _, h⟩

/-- A clause is found where a piece of its length gives a value to its key. -/
theorem locate?_eq_some_iff {c : Clause} {pos : Nat} {rest before own after : Text} :
    c.locate? pos rest = some ⟨before, own, after⟩ ↔
      rest = before ++ (own ++ after) ∧ pos + byteLength before = c.start ∧
        byteLength own = c.stop - c.start ∧ ∃ value, c.valueIn? own = some value := by
  unfold locate?
  constructor
  · intro h
    split at h
    · next hle =>
      simp only [Option.bind_eq_bind, Option.bind_eq_some_iff, Option.some.injEq,
        Placed.mk.injEq] at h
      obtain ⟨⟨gap, rest'⟩, hgap, ⟨own', after'⟩, hown, value, hvalue, rfl, rfl, rfl⟩ := h
      obtain ⟨rfl, hgaplen⟩ := Text.splitBytes?_eq_some.mp hgap
      obtain ⟨rfl, hownlen⟩ := Text.splitBytes?_eq_some.mp hown
      have hstart : pos + byteLength gap = c.start := by
        change byteLength gap = c.start - pos at hgaplen
        omega
      exact ⟨rfl, hstart, hownlen, value, hvalue⟩
    · cases h
  · rintro ⟨rfl, hstart, hown, value, hvalue⟩
    have hle : pos ≤ c.start := by omega
    have hgap : Text.splitBytes? (c.start - pos) (before ++ (own ++ after)) =
        some (before, own ++ after) := Text.splitBytes?_eq_some.mpr ⟨rfl, by omega⟩
    have hcut : Text.splitBytes? (c.stop - c.start) (own ++ after) = some (own, after) :=
      Text.splitBytes?_eq_some.mpr ⟨rfl, hown⟩
    simp only [if_pos hle, hgap, Option.bind_eq_bind, Option.bind_some, hcut, hvalue]

/-- A clause that is found stands as its key, the colon and the value. -/
theorem painted_of_valueIn? {c : Clause} {own value : Text} (h : c.valueIn? own = some value)
    (colored : Bool) : Painted colored own (c.painted colored own) := by
  obtain ⟨key, v, start⟩ := c
  cases key with
  | body => exact .styled .white own
  | field name =>
      have hown := Text.dropStart?_eq_some.mp h
      cases value with
      | nil =>
          rw [painted, h]
          exact .styled .underlinedRed own
      | cons a value =>
          rw [painted, h, hown]
          exact ((Painted.styled .boldCyan name).append (.styled .dim [':'])).append
            (.styled .green (a :: value))

end Clause

/-! ## Any clauses -/

theorem painted_highlightFrom (colored : Bool) (pos : Nat) (rest : Text) (clauses : List Clause) :
    Painted colored rest (highlightFrom colored pos rest clauses) := by
  induction clauses generalizing pos rest with
  | nil => exact .copied rest
  | cons c clauses ih =>
      rw [highlightFrom]
      split
      · next before own after hfound =>
        obtain ⟨rfl, _, _, value, hvalue⟩ := Clause.locate?_eq_some_iff.mp hfound
        have hpiece := (Painted.copied before).append (Clause.painted_of_valueIn? hvalue colored)
        rw [← List.append_assoc]
        exact hpiece.append (ih c.stop after)
      · exact ih pos rest

/-! ## A pass by offsets -/

/-- A highlighter on its way through a text: what is shown so far, and the offset up to which. -/
structure Highlighter where
  shown : Text
  pos : Nat

namespace Highlighter

/-- Shows one clause, or passes it over. No result if the text between the highlighter and the
clause cannot be cut out. -/
def step? (colored : Bool) (s : Text) (h : Highlighter) (c : Clause) : Option Highlighter :=
  match s.slice? c.start c.stop with
  | none => some h
  | some own =>
    if c.start < h.pos then some h
    else match c.valueIn? own with
      | none => some h
      | some _ => do
        let gap ← s.slice? h.pos c.start
        some ⟨h.shown ++ gap ++ c.painted colored own, c.stop⟩

/-- Shows the rest of the text. -/
def finish? (s : Text) (h : Highlighter) : Option Text := do
  let rest ← s.slice? h.pos (byteLength s)
  some (h.shown ++ rest)

/-- Whether the highlighter stands before `rest`, so that it is not inside a character. -/
def Before (s : Text) (h : Highlighter) (rest : Text) : Prop :=
  ∃ front, s = front ++ rest ∧ byteLength front = h.pos

end Highlighter

/-- Highlights clause by clause. No result if a cut fails. -/
def highlightByOffsets? (colored : Bool) (s : Text) (clauses : List Clause) : Option Text := do
  let last ← clauses.foldlM (Highlighter.step? colored s) ⟨[], 0⟩
  last.finish? s

namespace Highlighter

/-- A step shows the clause that is found in the rest of the text. -/
theorem step?_of_locate? (colored : Bool) {s rest gap own after : Text} {h : Highlighter}
    {c : Clause} (hh : h.Before s rest) (hc : c.start ≤ maxOffset)
    (hfound : c.locate? h.pos rest = some ⟨gap, own, after⟩) :
    h.step? colored s c = some ⟨h.shown ++ gap ++ c.painted colored own, c.stop⟩ ∧
      Before s ⟨h.shown ++ gap ++ c.painted colored own, c.stop⟩ after := by
  obtain ⟨front, rfl, hpos⟩ := hh
  obtain ⟨rfl, hstart, hlen, value, hvalue⟩ := Clause.locate?_eq_some_iff.mp hfound
  have hstop : c.start + byteLength own = c.stop := by
    have hle := Clause.start_le_stop hc
    omega
  have hgap : (front ++ (gap ++ (own ++ after))).slice? h.pos c.start = some gap :=
    Text.slice?_eq_some_iff.mpr ⟨front, own ++ after, rfl, hpos, hstart⟩
  have hfront : byteLength (front ++ gap) = c.start := by rw [byteLength_append, hpos, hstart]
  have hown : (front ++ (gap ++ (own ++ after))).slice? c.start c.stop = some own :=
    Text.slice?_eq_some_iff.mpr ⟨front ++ gap, after, by simp, hfront, hstop⟩
  have hle : ¬ c.start < h.pos := by omega
  constructor
  · rw [step?, hown]
    simp only [if_neg hle, hvalue, hgap, Option.bind_eq_bind, Option.bind_some]
  · refine ⟨front ++ gap ++ own, by simp, ?_⟩
    rw [byteLength_append, hfront, hstop]

/-- A step passes over the clause that is not found. -/
theorem step?_of_locate?_eq_none (colored : Bool) {s rest : Text} {h : Highlighter} {c : Clause}
    (hh : h.Before s rest) (hnone : c.locate? h.pos rest = none) :
    h.step? colored s c = some h := by
  obtain ⟨front, rfl, hpos⟩ := hh
  rw [step?]
  split
  · rfl
  · next own hown =>
    split
    · rfl
    · next hle =>
      split
      · rfl
      · next value hvalue =>
        -- the clause would be found in the rest of the text
        rw [← hpos, Nat.not_lt] at hle
        obtain ⟨gap, after, hrest, hstart, hstop⟩ := Text.exists_of_slice?_append hown hle
        rw [hpos] at hstart
        have hfound : c.locate? h.pos rest = some ⟨gap, own, after⟩ :=
          Clause.locate?_eq_some_iff.mpr ⟨hrest, hstart, by omega, value, hvalue⟩
        rw [hnone] at hfound
        cases hfound

/-- No step fails, and what a run shows and leaves is what highlighting the rest shows. -/
theorem exists_foldlM_step? (colored : Bool) {s rest : Text} {h : Highlighter}
    {clauses : List Clause} (hh : h.Before s rest) (hc : ∀ c ∈ clauses, c.start ≤ maxOffset) :
    ∃ last left, clauses.foldlM (step? colored s) h = some last ∧ last.Before s left ∧
      last.shown ++ left = h.shown ++ highlightFrom colored h.pos rest clauses := by
  induction clauses generalizing h rest with
  | nil => exact ⟨h, rest, rfl, hh, rfl⟩
  | cons c clauses ih =>
      have hclauses : ∀ d ∈ clauses, d.start ≤ maxOffset := fun d hd =>
        hc d (List.mem_cons_of_mem c hd)
      rw [List.foldlM_cons, highlightFrom]
      cases hfound : c.locate? h.pos rest with
      | none =>
          rw [step?_of_locate?_eq_none colored hh hfound]
          exact ih hh hclauses
      | some placed =>
          obtain ⟨gap, own, after⟩ := placed
          obtain ⟨hstep, hnext⟩ :=
            step?_of_locate? colored hh (hc c List.mem_cons_self) hfound
          obtain ⟨last, left, hrun, hlast, hshown⟩ := ih hnext hclauses
          refine ⟨last, left, ?_, hlast, ?_⟩
          · rw [hstep]
            exact hrun
          · rw [hshown]
            simp only [List.append_assoc]

theorem Before.finish?_eq {s rest : Text} {h : Highlighter} (hh : h.Before s rest) :
    h.finish? s = some (h.shown ++ rest) := by
  obtain ⟨front, rfl, hpos⟩ := hh
  rw [finish?, ← hpos, Text.slice?_append_end]
  rfl

end Highlighter

/-- Every cut of the pass by offsets is between two characters, and the pass shows what `highlight`
does. -/
theorem highlightByOffsets?_eq (colored : Bool) (s : Text) {clauses : List Clause}
    (hc : ∀ c ∈ clauses, c.start ≤ maxOffset) :
    highlightByOffsets? colored s clauses = some (highlight colored s clauses) := by
  have hstart : Highlighter.Before s ⟨[], 0⟩ s := ⟨[], rfl, rfl⟩
  obtain ⟨last, left, hrun, hlast, hshown⟩ := Highlighter.exists_foldlM_step? colored hstart hc
  rw [highlightByOffsets?, hrun]
  change last.finish? s = _
  rw [hlast.finish?_eq, hshown]
  rfl

/-- Highlighting never fails to cut out a piece of the text. What it shows is the text itself, or
the text with escape sequences in it where coloring is on. -/
theorem highlight_keeps_text (s : Text) (clauses : List Clause) :
    ((∀ c ∈ clauses, c.start ≤ maxOffset) →
        ∀ colored, highlightByOffsets? colored s clauses = some (highlight colored s clauses)) ∧
      highlight false s clauses = s ∧
      ('\x1b' ∉ s → unstyled (highlight true s clauses) = s) := by
  refine ⟨fun hc colored => highlightByOffsets?_eq colored s hc, ?_, ?_⟩
  · exact (painted_highlightFrom false 0 s clauses).eq_plain
  · intro hesc
    exact (painted_highlightFrom true 0 s clauses).unstyled_eq hesc

/-- Two clauses stand in the text. The others begin inside a character, inside an earlier clause or
past the end, or have another key. -/
theorem highlight_keeps_text_stale :
    let s : Text := "é k:v a:"
    let clauses : List Clause :=
      [.body "x" 1, .field "k" "v" 3, .body "v" 5, .field "b" [] 7, .field "a" [] 7, .body [] 40,
        .body "y" maxOffset]
    (∀ c ∈ clauses, c.start ≤ maxOffset) ∧ '\x1b' ∉ s ∧
      highlight true s clauses =
        "é \x1b[1;36mk\x1b[0m\x1b[90m:\x1b[0m\x1b[32mv\x1b[0m \x1b[4;31ma:\x1b[0m" ∧
      highlightByOffsets? true s clauses = some (highlight true s clauses) ∧
      highlight false s clauses = s ∧ unstyled (highlight true s clauses) = s := by
  intro s clauses
  have hc : ∀ c ∈ clauses, c.start ≤ maxOffset := by decide
  have hesc : '\x1b' ∉ s := by decide
  obtain ⟨hpass, hplain, hcolored⟩ := highlight_keeps_text s clauses
  exact ⟨hc, hesc, by decide +kernel, hpass hc true, hplain, hcolored hesc⟩

/-! ## The clauses of the text itself -/

namespace Clause

/-- The clause in color, as it is typed. -/
def inColor (colored : Bool) (c : Clause) : Text :=
  match c.key, c.value with
  | .body, value => paint colored .white value
  | .field name, [] => paint colored .underlinedRed (name ++ [':'])
  | .field name, value =>
    paint colored .boldCyan name ++ paint colored .dim [':'] ++ paint colored .green value

theorem valueIn?_text (c : Clause) : c.valueIn? c.text = some c.value := by
  obtain ⟨key, value, start⟩ := c
  cases key with
  | body => rfl
  | field name => exact Text.dropStart?_eq_some.mpr (by simp [text])

theorem painted_text (colored : Bool) (c : Clause) :
    c.painted colored c.text = c.inColor colored := by
  have hvalue := c.valueIn?_text
  obtain ⟨key, value, start⟩ := c
  cases key with
  | body => rfl
  | field name =>
      rw [painted, hvalue]
      cases value with
      | nil => rfl
      | cons a value => rfl

end Clause

/-- The text from `pos` on with the clauses in color, each behind what stands before it. No result
if there is no such text before one of them. -/
def inColorFrom? (colored : Bool) (s : Text) (pos : Nat) : List Clause → Option Text
  | [] => s.slice? pos (byteLength s)
  | c :: clauses => do
    let gap ← s.slice? pos c.start
    let rest ← inColorFrom? colored s c.spot.stop clauses
    some (gap ++ c.inColor colored ++ rest)

/-- A clause that stands in the text, behind a gap, is found there. -/
theorem Clause.locate?_text {c : Clause} {pos : Nat} {gap : Text}
    (hstart : c.start = pos + byteLength gap) (hstop : c.stop = c.spot.stop) (rest : Text) :
    c.locate? pos (gap ++ (c.text ++ rest)) = some ⟨gap, c.text, rest⟩ := by
  refine locate?_eq_some_iff.mpr ⟨rfl, hstart.symm, ?_, c.value, c.valueIn?_text⟩
  rw [hstop]
  exact (Nat.add_sub_cancel_left _ _).symm

/-- The first of the clauses that are spread over a text, and what is behind it. -/
theorem Spread.exists_of_cons {offset : Nat} {s : Text} {c : Clause} {clauses : List Clause}
    (h : Spread offset s ((c :: clauses).map Clause.spot)) :
    ∃ gap rest, s = gap ++ (c.text ++ rest) ∧ c.start = offset + byteLength gap ∧
      Spread c.spot.stop rest (clauses.map Clause.spot) := by
  generalize hspots : (c :: clauses).map Clause.spot = spots at h
  cases h with
  | blanks => cases hspots
  | @spot _ gap own rest spots hg hlt hrest =>
      obtain ⟨hspot, rfl⟩ := List.cons.inj hspots
      have hstart : c.start = offset + byteLength gap := congrArg Spot.start hspot
      obtain rfl : c.text = own := congrArg Spot.own hspot
      rw [← hstart] at hrest
      exact ⟨gap, rest, rfl, hstart, hrest⟩

/-- Clauses that are spread over a text are all found in it. -/
theorem Spread.inColorFrom?_eq {clauses : List Clause} {offset : Nat} {rest : Text}
    (h : Spread offset rest (clauses.map Clause.spot)) (front : Text)
    (hfront : byteLength front = offset) (hs : byteLength (front ++ rest) ≤ maxOffset)
    (colored : Bool) :
    inColorFrom? colored (front ++ rest) offset clauses =
      some (highlightFrom colored offset rest clauses) := by
  induction clauses generalizing offset rest front with
  | nil =>
      subst hfront
      exact Text.slice?_append_end front rest
  | cons c clauses ih =>
      obtain ⟨gap, rest, rfl, hstart, hrest⟩ := h.exists_of_cons
      have hgap : (front ++ (gap ++ (c.text ++ rest))).slice? offset c.start = some gap := by
        rw [hstart, ← hfront]
        exact Text.slice?_append front gap (c.text ++ rest)
      have hassoc : front ++ (gap ++ (c.text ++ rest)) = front ++ gap ++ c.text ++ rest := by
        simp only [List.append_assoc]
      have hlen : byteLength (front ++ gap ++ c.text) = c.spot.stop := by
        rw [byteLength_append, byteLength_append, hfront, ← hstart]
        rfl
      -- the clause ends within the text, so that its end is not too large for an offset
      have hstop : c.stop = c.spot.stop := by
        rw [hassoc, byteLength_append, hlen] at hs
        exact Nat.min_eq_left (Nat.le_trans (Nat.le_add_right _ _) hs)
      have htail := ih hrest (front ++ gap ++ c.text) hlen (by rwa [← hassoc])
      rw [← hassoc] at htail
      rw [inColorFrom?, hgap, highlightFrom, Clause.locate?_text hstart hstop rest]
      simp only [Option.bind_eq_bind, Option.bind_some, htail, hstop, Clause.painted_text]

/-- In a query that offsets can measure, all clauses are shown in color, in order, and the text
before, between and after them as it is. -/
theorem highlight_parse (colored : Bool) (s : Text) (hs : byteLength s ≤ maxOffset) :
    inColorFrom? colored s 0 (parse s) = some (highlight colored s (parse s)) :=
  (spread_parse s).inColorFrom?_eq [] rfl hs colored

theorem highlight_parse_prompt :
    let s : Text := " é  x\u3000k:'a b' n: \tz: "
    let shown : Text :=
      " \x1b[37mé  x\x1b[0m\u3000\x1b[1;36mk\x1b[0m\x1b[90m:\x1b[0m\x1b[32m'a b'\x1b[0m " ++
        "\x1b[4;31mn:\x1b[0m \t\x1b[4;31mz:\x1b[0m \x1b[37m\x1b[0m"
    byteLength s ≤ maxOffset ∧
      parse s = [.body "é  x" 1, .field "k" "'a b'" 9, .field "n" [] 17, .field "z" [] 21,
        .body [] 24] ∧
      highlight true s (parse s) = shown := by
  intro s shown
  have hlen : byteLength s ≤ maxOffset := by decide
  have hparse : parse s = [.body "é  x" 1, .field "k" "'a b'" 9, .field "n" [] 17,
      .field "z" [] 21, .body [] 24] := by decide +kernel
  have hcolors : inColorFrom? true s 0 (parse s) = some shown := by
    rw [hparse]
    decide +kernel
  refine ⟨hlen, hparse, ?_⟩
  rw [highlight_parse true s hlen] at hcolors
  exact Option.some.inj hcolors

end LogFilter
