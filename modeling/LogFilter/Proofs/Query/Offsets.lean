import LogFilter.Proofs.Query.EditText
import LogFilter.Proofs.Query.Tokens

/-!
# Where clauses stand

The clauses of a query stand in it at their offsets, and leave out blanks only. A clause without
any text is the empty search text at the end, which is there if blanks follow a last token that has
a key (`accounted_parse`).
-/

namespace LogFilter

/-- The text of a clause in its place. -/
def Clause.spot (c : Clause) : Spot := ⟨c.start, c.text⟩

/-! ## Clauses in their places -/

theorem lt_start_of_mem_head?_place {runs : List Run} (h : ∀ r ∈ runs.head?, r.gap ≠ [])
    (offset : Nat) : ∀ p ∈ ((place offset runs).map Clause.spot).head?, offset < p.start := by
  cases runs with
  | nil => simp [place]
  | cons r runs =>
      intro p hp
      obtain rfl : _ = p := Option.some.inj hp
      exact Nat.lt_add_of_pos_right (byteLength_pos (h r rfl))

/-- The empty search text stands behind all the blanks. -/
theorem spread_prompt {s : Text} (hs : IsGap s) (offset : Nat) :
    Spread offset s [⟨offset + byteLength s, []⟩] := by
  have h : Spread offset (s ++ ([] ++ [])) [⟨offset + byteLength s, []⟩] :=
    .spot hs (by simp) (.blanks isGap_nil)
  rwa [List.append_nil, List.append_nil] at h

theorem LaidRuns.spread {runs : List Run} {s : Text} (h : LaidRuns runs s) (offset : Nat) :
    Spread offset (Run.allText runs ++ s)
      ((place offset (runs ++ Run.prompt runs s)).map Clause.spot) := by
  induction h generalizing offset with
  | trailing hs =>
      rw [Run.prompt_of_nil]
      exact .blanks hs
  | @run r closed runs s hg hr hb hf hruns ih =>
      rw [Run.allText_cons, List.append_assoc, List.append_assoc]
      cases runs with
      | cons next runs =>
          have hgap := hruns.gap_ne_nil hb
          rw [Run.prompt_cons r (List.cons_ne_nil next runs)]
          exact .spot hg (lt_start_of_mem_head?_place (by simpa using hgap) _) (ih _)
      | nil =>
          have hs : IsGap s := hruns.isGap_trailing
          rw [Run.prompt_singleton, Run.allText_nil, List.nil_append]
          split
          · next hp =>
            refine .spot hg ?_ (spread_prompt hs _)
            exact @lt_start_of_mem_head?_place [⟨s, .body, []⟩] (by simpa using hp.1) _
          · exact .spot hg (by simp [place]) (.blanks hs)

theorem spread_parse (s : Text) : Spread 0 s ((parse s).map Clause.spot) := by
  obtain ⟨hruns, htext⟩ := laidRuns_layout s
  have h := hruns.spread 0
  rwa [htext, ← Layout.runs_eq, ← parse] at h

theorem spaced_parse (s : Text) : Spaced s ((parse s).map Clause.spot) :=
  (spread_parse s).spaced

theorem Clause.stop_le_of_mem_parse {s : Text} {c : Clause} (h : c ∈ parse s) :
    c.spot.stop ≤ byteLength s :=
  (Text.bounds_of_slice? ((spaced_parse s).own c.spot (List.mem_map_of_mem h))).2

theorem Clause.start_le_of_mem_parse {s : Text} {c : Clause} (h : c ∈ parse s) :
    c.start ≤ byteLength s :=
  Nat.le_trans (Nat.le_add_right _ _) (stop_le_of_mem_parse h)

/-- Every run has a first character, which is no blank. -/
theorem LaidRuns.exists_cons {runs : List Run} {s : Text} (h : LaidRuns runs s) (offset : Nat) :
    ∀ c ∈ place offset runs, ∃ a t, c.text = a :: t ∧ isBlank a = false := by
  induction h generalizing offset with
  | trailing => simp [place]
  | run _ hr _ _ _ ih =>
      intro c hc
      rcases List.mem_cons.mp hc with rfl | hc
      · exact hr.exists_cons
      · exact ih _ c hc

/-! ## The empty search text -/

/-- Whether the last token has a key. -/
def endsKeyed (s : Text) : Bool := (tokens s).getLast?.any (·.lexeme.key.isSome)

theorem endsKeyed_eq (s : Text) :
    endsKeyed s = (Run.ofPieces (layout s).pieces).getLast?.any Run.isField := by
  have h := getLast?_tokensFrom 0 (layout s).pieces
  have hany := congrArg (Option.any (·.key.isSome)) h
  rw [Option.any_map, Option.any_map] at hany
  rw [Run.any_getLast?_ofPieces]
  exact hany

/-- The clauses of a query are its runs in their places, and the empty search text at the end. -/
theorem parse_eq_append (s : Text) :
    parse s = place 0 (Run.ofPieces (layout s).pieces) ++
      if (layout s).trailing ≠ [] ∧ endsKeyed s = true then [Clause.body [] (byteLength s)]
      else [] := by
  have htext := congrArg byteLength (laidRuns_layout s).2
  rw [byteLength_append] at htext
  rw [parse, Layout.runs_eq, place_append, Run.prompt, endsKeyed_eq, Nat.zero_add]
  split
  · rw [← htext]
    rfl
  · rfl

/-- The blanks at the end stand behind the last token. -/
theorem stop_getLast?_tokensFrom (offset : Nat) (pieces : List Piece) (s : Text) :
    ∀ t ∈ (tokensFrom offset pieces).getLast?,
      t.stop + byteLength s = offset + byteLength (Layout.text ⟨pieces, s⟩) := by
  induction pieces generalizing offset with
  | nil => simp [tokensFrom]
  | cons p pieces ih =>
      intro t ht
      have hlen : offset + byteLength (Layout.text ⟨p :: pieces, s⟩) =
          offset + byteLength p.gap + byteLength p.lexeme.text +
            byteLength (Layout.text ⟨pieces, s⟩) := by
        simp only [Layout.text_cons, byteLength_append, Nat.add_assoc]
      rw [hlen]
      cases pieces with
      | nil =>
          obtain rfl : _ = t := Option.some.inj ht
          rfl
      | cons q pieces =>
          apply ih
          rwa [tokensFrom, tokensFrom, List.getLast?_cons_cons] at ht

theorem stop_add_trailing {s : Text} {t : Token} (h : t ∈ (tokens s).getLast?) :
    t.stop + byteLength (layout s).trailing = byteLength s := by
  have hstop := stop_getLast?_tokensFrom 0 (layout s).pieces (layout s).trailing t h
  rwa [text_pieces_layout, Nat.zero_add] at hstop

theorem slice?_trailing {s : Text} {t : Token} (h : t ∈ (tokens s).getLast?) :
    s.slice? t.stop (byteLength s) = some (layout s).trailing := by
  have hstop := stop_add_trailing h
  have htext : (layout s).text = s := layout_text s
  rw [Layout.text] at htext
  generalize (layout s).pieces.flatMap (fun p => p.gap ++ p.lexeme.text) = before at htext
  have hlen := congrArg byteLength htext
  rw [byteLength_append] at hlen
  refine Text.slice?_eq_some_iff.mpr ⟨before, [], ?_, by omega, hstop⟩
  rw [List.append_nil, htext]

theorem stop_lt_iff_of_getLast? {s : Text} {t : Token} (h : t ∈ (tokens s).getLast?) :
    t.stop < byteLength s ↔ (layout s).trailing ≠ [] := by
  rw [← stop_add_trailing h, Nat.lt_add_right_iff_pos, Nat.pos_iff_ne_zero, ne_eq,
    byteLength_eq_zero]

/-- The empty search text is called for if blanks follow a last token that has a key. -/
theorem prompt_iff_exists_token (s : Text) :
    ((layout s).trailing ≠ [] ∧ endsKeyed s = true) ↔
      ∃ t ∈ (tokens s).getLast?, t.lexeme.key.isSome = true ∧ t.stop < byteLength s := by
  constructor
  · rintro ⟨htrail, hends⟩
    obtain ⟨t, ht, hkey⟩ := (Option.any_eq_true _ _).mp hends
    exact ⟨t, ht, hkey, (stop_lt_iff_of_getLast? ht).mpr htrail⟩
  · rintro ⟨t, ht, hkey, hlt⟩
    refine ⟨(stop_lt_iff_of_getLast? ht).mp hlt, ?_⟩
    rw [endsKeyed, Option.mem_def.mp ht]
    exact hkey

theorem Clause.text_of_content {c : Clause} (h : c.content = (.body, [])) : c.text = [] := by
  obtain ⟨key, value, start⟩ := c
  obtain ⟨rfl, rfl⟩ := Prod.mk.inj h
  rfl

theorem content_ne_of_mem_place {runs : List Run} {s : Text} (h : LaidRuns runs s) {offset : Nat}
    {c : Clause} (hc : c ∈ place offset runs) : c.content ≠ (.body, []) := by
  obtain ⟨a, t, htext, _⟩ := h.exists_cons offset c hc
  intro hcontent
  rw [Clause.text_of_content hcontent] at htext
  cases htext

/-- A clause is the empty search text only if it is the last one and one is called for. -/
theorem eq_prompt_of_content {s : Text} {before after : List Clause} {c : Clause}
    (h : parse s = before ++ c :: after) (hc : c.content = (.body, [])) :
    ((layout s).trailing ≠ [] ∧ endsKeyed s = true) ∧
      before = place 0 (Run.ofPieces (layout s).pieces) ∧ c = .body [] (byteLength s) ∧
      after = [] := by
  have hnot : c ∉ place 0 (Run.ofPieces (layout s).pieces) := fun hmem =>
    content_ne_of_mem_place (laidRuns_layout s).1 hmem hc
  rw [parse_eq_append] at h
  split at h
  · next hp =>
    obtain ⟨hbefore, hbody, hafter⟩ :=
      (List.append_cons_inj_of_notMem hnot List.not_mem_nil).mp h
    exact ⟨hp, hbefore.symm, hbody.symm, hafter.symm⟩
  · rw [List.append_nil] at h
    exact (hnot (h ▸ List.mem_append_right before List.mem_cons_self)).elim

theorem any_getLast?_place (offset : Nat) (runs : List Run) :
    (place offset runs).getLast?.any (!·.isBody) = runs.getLast?.any Run.isField := by
  have h := congrArg (fun bodies => bodies.getLast?.any (!·)) (map_isBody_place offset runs)
  simpa [List.getLast?_map, Option.any_map] using h

theorem Readable.isChain {cs : List Clause} (h : Readable cs) :
    cs.IsChain fun c d => ¬ (c.isBody = true ∧ d.isBody = true) := by
  induction h with
  | nil => exact .nil
  | @cons c closed cs hc hlast hf _ ih =>
      rw [List.isChain_cons]
      refine ⟨?_, ih⟩
      rintro d hd ⟨hbody, hnext⟩
      rcases hf with hf | hf
      · rw [hbody] at hf
        cases hf
      · rw [hf d hd] at hnext
        cases hnext
  | @prompt c p hc hf hp => simp [hf]

/-! ## The clauses of a text -/

/-- How clauses account for a text. -/
structure Accounted (s : Text) (cs : List Clause) : Prop where
  stop_le : ∀ c ∈ cs, c.stop ≤ byteLength s
  /-- The end of a clause is exact in every text that offsets can measure. -/
  stop_eq : byteLength s ≤ maxOffset → ∀ c ∈ cs, c.stop = c.spot.stop
  spaced : Spaced s (cs.map Clause.spot)
  apart : cs.IsChain fun c d => ¬ (c.isBody = true ∧ d.isBody = true)
  head : ∀ c ∈ cs, c.content = (.body, []) ∨ ∃ a t, c.text = a :: t ∧ isBlank a = false
  /-- The empty search text stands behind a field, at the end of the text. -/
  prompt : ∀ before c after, cs = before ++ c :: after → c.content = (.body, []) →
    after = [] ∧ c.start = byteLength s ∧ ∃ d ∈ before.getLast?, d.isBody = false
  prompt_iff : (∃ c ∈ cs, c.content = (.body, [])) ↔
    ∃ t ∈ (tokens s).getLast?, t.lexeme.key.isSome = true ∧ t.stop < byteLength s
  nil_iff : cs = [] ↔ IsGap s

theorem accounted_parse (s : Text) : Accounted s (parse s) where
  stop_le c hc := Nat.le_trans (Nat.min_le_left _ _) (Clause.stop_le_of_mem_parse hc)
  stop_eq hs c hc := Nat.min_eq_left (Nat.le_trans (Clause.stop_le_of_mem_parse hc) hs)
  spaced := spaced_parse s
  apart := (readable_parse s).isChain
  head c hc := by
    rw [parse_eq_append] at hc
    rcases List.mem_append.mp hc with hc | hc
    · exact .inr ((laidRuns_layout s).1.exists_cons 0 c hc)
    · split at hc
      · rw [List.mem_singleton.mp hc]
        exact .inl rfl
      · cases hc
  prompt before c after hcs hc := by
    obtain ⟨⟨_, hends⟩, rfl, rfl, rfl⟩ := eq_prompt_of_content hcs hc
    refine ⟨rfl, rfl, ?_⟩
    rw [endsKeyed_eq, ← any_getLast?_place 0] at hends
    obtain ⟨d, hd, hfield⟩ := (Option.any_eq_true _ _).mp hends
    exact ⟨d, hd, by simpa using hfield⟩
  prompt_iff := by
    rw [← prompt_iff_exists_token]
    constructor
    · rintro ⟨c, hc, hcontent⟩
      obtain ⟨before, after, hcs⟩ := List.append_of_mem hc
      exact (eq_prompt_of_content hcs hcontent).1
    · intro hp
      refine ⟨.body [] (byteLength s), ?_, rfl⟩
      rw [parse_eq_append, if_pos hp]
      exact List.mem_append_right _ List.mem_cons_self
  nil_iff := by
    constructor
    · intro h
      have hspread := spread_parse s
      rw [h] at hspread
      cases hspread with
      | blanks hs => exact hs
    · intro h
      rw [parse, Layout.runs_eq, layout_of_isGap h, Run.ofPieces, Run.prompt_of_nil]
      rfl

theorem accounted_parse_prompt :
    let s : Text := "\u3000a  b\tk:'x y' \u00a0z: "
    byteLength s ≤ maxOffset ∧
      parse s = [.body "a  b" 3, .field "k" "'x y'" 8, .field "z" [] 18, .body [] 21] ∧
      (∀ c ∈ parse s, c.stop = c.spot.stop) ∧
      ∃ t ∈ (tokens s).getLast?, t.lexeme.key.isSome = true ∧ t.stop < byteLength s := by
  intro s
  have hlen : byteLength s ≤ maxOffset := by decide
  have hparse : parse s = [.body "a  b" 3, .field "k" "'x y'" 8, .field "z" [] 18, .body [] 21] := by
    decide +kernel
  have h := accounted_parse s
  refine ⟨hlen, hparse, h.stop_eq hlen, h.prompt_iff.mp ⟨.body [] 21, ?_, rfl⟩⟩
  rw [hparse]
  decide

end LogFilter
