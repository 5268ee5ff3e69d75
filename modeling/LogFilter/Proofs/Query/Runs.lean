import LogFilter.Proofs.Query.Layout
import LogFilter.Query.Parse

/-!
# The grammar of runs

Joining the lexemes without a key gives runs of which no two neighbours are free text. The runs of
a text are the only ones of the grammar that spell it (`LaidRuns.cut`, `laidRuns_layout`).
-/

namespace LogFilter

/-- Free text with blanks between its lexemes, and whether its last quote is closed. -/
inductive FreeText : Text → Bool → Prop where
  | lexeme {value closed} (hv : Lexeme.Valid ⟨none, value, closed⟩) : FreeText value closed
  | join {value gap rest closed} (hv : Lexeme.Valid ⟨none, value, true⟩) (hg : IsGap gap)
      (hne : gap ≠ []) : FreeText rest closed → FreeText (value ++ gap ++ rest) closed

/-- The values that a clause of a query can have under its key, the empty search text apart, and
whether they close their quotes. -/
inductive Spelled : Key → Text → Bool → Prop where
  | body {value closed} (hv : FreeText value closed) : Spelled .body value closed
  | field {name value closed} (hk : IsKey name) (hv : IsValue value closed) :
      Spelled (.field name) value closed

/-- A closed lexeme without a key is a value under any key. -/
theorem Lexeme.Valid.spelled {key : Key} {value : Text} (hv : Lexeme.Valid ⟨none, value, true⟩)
    (hk : ∀ name, key = .field name → IsKey name) : Spelled key value true := by
  cases key with
  | body => exact .body (.lexeme hv)
  | field name => exact .field (hk name rfl) hv.isValue

/-- The text of runs, with the blanks before each of them. -/
def Run.allText (runs : List Run) : Text := runs.flatMap fun r => r.gap ++ r.text

@[simp] theorem Run.allText_nil : Run.allText [] = [] := rfl

@[simp] theorem Run.allText_cons (r : Run) (runs : List Run) :
    Run.allText (r :: runs) = r.gap ++ (r.text ++ Run.allText runs) := by
  simp [Run.allText]

/-- Runs, and blanks after the last one, in which every run ends at a boundary and no free text
follows on free text. -/
inductive LaidRuns : List Run → Text → Prop where
  | trailing {s} (hs : IsGap s) : LaidRuns [] s
  | run {r closed runs s} (hg : IsGap r.gap) (hr : Spelled r.key r.value closed)
      (hb : Boundary closed (Run.allText runs ++ s))
      (hf : r.isField = true ∨ ∀ next ∈ runs.head?, next.isField = true) :
      LaidRuns runs s → LaidRuns (r :: runs) s

theorem Run.text_body (gap value : Text) : Run.text ⟨gap, .body, value⟩ = value := rfl

theorem Run.text_field (gap name value : Text) :
    Run.text ⟨gap, .field name, value⟩ = name ++ ':' :: value := rfl

theorem FreeText.exists_cons {value : Text} {closed : Bool} (h : FreeText value closed) :
    ∃ c s, value = c :: s ∧ isBlank c = false := by
  cases h with
  | lexeme hv => exact hv.exists_cons
  | @join value gap rest closed hv hg hne hrest =>
      obtain ⟨c, s, hs, hc⟩ := hv.exists_cons
      rw [show value = c :: s from hs]
      exact ⟨c, _, rfl, hc⟩

/-- A run begins with a character that is no blank. -/
theorem Spelled.exists_cons {r : Run} {closed : Bool} (h : Spelled r.key r.value closed) :
    ∃ c s, r.text = c :: s ∧ isBlank c = false := by
  obtain ⟨gap, key, value⟩ := r
  cases h with
  | body hv => exact hv.exists_cons
  | field hk hv => exact (Lexeme.Valid.keyed hk hv).exists_cons

theorem Spelled.isKey {name value : Text} {closed : Bool}
    (h : Spelled (.field name) value closed) : IsKey name := by
  cases h with
  | field hk _ => exact hk

/-- No run fits into an empty text. -/
theorem LaidRuns.eq_nil {runs : List Run} {s : Text} (h : LaidRuns runs s)
    (hs : Run.allText runs ++ s = []) : runs = [] ∧ s = [] := by
  cases h with
  | trailing => exact ⟨rfl, hs⟩
  | run _ hr _ _ _ =>
      obtain ⟨c, t, heq, _⟩ := hr.exists_cons
      simp [heq] at hs

/-- Behind a boundary, blanks stand before the next run. -/
theorem LaidRuns.gap_ne_nil {runs : List Run} {s : Text} (h : LaidRuns runs s) {closed : Bool}
    (hb : Boundary closed (Run.allText runs ++ s)) : ∀ r ∈ runs.head?, r.gap ≠ [] := by
  cases h with
  | trailing => simp
  | @run r _ runs s hg hr =>
      intro next hn
      obtain rfl : r = next := Option.some.inj hn
      rw [Run.allText_cons, List.append_assoc, List.append_assoc] at hb
      exact hb.gap_ne_nil hr.exists_cons

theorem LaidRuns.isGap_trailing {runs : List Run} {s : Text} (h : LaidRuns runs s) : IsGap s := by
  induction h with
  | trailing hs => exact hs
  | run _ _ _ _ _ ih => exact ih

/-! ## From runs to their text and back -/

theorem Run.prepend_of_field {gap word : Text} {runs : List Run}
    (h : ∀ next ∈ runs.head?, next.isField = true) :
    Run.prepend gap word runs = ⟨gap, .body, word⟩ :: runs := by
  cases runs with
  | nil => rfl
  | cons r runs =>
      obtain ⟨inner, key, value⟩ := r
      cases key with
      | field name => rfl
      | body => cases h _ rfl

/-- Free text before a field or the end of a query is one run. -/
theorem FreeText.ofPieces_layout {value : Text} {closed : Bool} (h : FreeText value closed)
    {gap rest : Text} (hg : IsGap gap) (hb : Boundary closed rest)
    (hf : ∀ next ∈ (Run.ofPieces (layout rest).pieces).head?, next.isField = true) :
    Run.ofPieces (layout (gap ++ (value ++ rest))).pieces =
        ⟨gap, .body, value⟩ :: Run.ofPieces (layout rest).pieces ∧
      (layout (gap ++ (value ++ rest))).trailing = (layout rest).trailing := by
  induction h generalizing gap with
  | @lexeme value closed hv =>
      have hcut := layout_of_lexeme hg hv hb
      rw [Lexeme.text_free] at hcut
      rw [hcut]
      exact ⟨Run.prepend_of_field hf, rfl⟩
  | @join value inner text closed hv hi hne _ ih =>
      obtain ⟨hruns, htrail⟩ := ih hi hb
      have hbl : Boundary true (inner ++ (text ++ rest)) := by
        cases inner with
        | nil => exact (hne rfl).elim
        | cons c inner => exact boundary_blank (hi c List.mem_cons_self) _
      have hcut := layout_of_lexeme hg hv hbl
      rw [Lexeme.text_free] at hcut
      rw [List.append_assoc, List.append_assoc, hcut]
      refine ⟨?_, htrail⟩
      rw [Run.ofPieces, hruns, Run.prepend, List.append_assoc]

/-- A run that ends at a boundary is cut off whatever stands after it. Only free text asks what
comes next. -/
theorem Spelled.ofPieces_layout {r : Run} {closed : Bool} {rest : Text} (hg : IsGap r.gap)
    (hr : Spelled r.key r.value closed) (hb : Boundary closed rest)
    (hf : r.isField = true ∨
      ∀ next ∈ (Run.ofPieces (layout rest).pieces).head?, next.isField = true) :
    Run.ofPieces (layout (r.gap ++ (r.text ++ rest))).pieces =
        r :: Run.ofPieces (layout rest).pieces ∧
      (layout (r.gap ++ (r.text ++ rest))).trailing = (layout rest).trailing := by
  obtain ⟨gap, key, value⟩ := r
  cases hr with
  | body hv => exact hv.ofPieces_layout hg hb (hf.resolve_left Bool.false_ne_true)
  | @field name value closed hk hv =>
      have hcut := layout_of_lexeme hg (Lexeme.Valid.keyed hk hv) hb
      rw [Lexeme.text_keyed] at hcut
      rw [Run.text_field, hcut, Run.ofPieces]
      exact ⟨rfl, rfl⟩

/-- Runs of the grammar are read back from the text that they spell. -/
theorem LaidRuns.cut {runs : List Run} {s : Text} (h : LaidRuns runs s) :
    Run.ofPieces (layout (Run.allText runs ++ s)).pieces = runs ∧
      (layout (Run.allText runs ++ s)).trailing = s := by
  induction h with
  | trailing hs =>
      rw [Run.allText_nil, List.nil_append, layout_of_isGap hs]
      exact ⟨rfl, rfl⟩
  | @run r closed runs s hg hr hb hf _ ih =>
      obtain ⟨hruns, htrail⟩ := ih
      have hcut := hr.ofPieces_layout hg hb (by rwa [hruns])
      rw [Run.allText_cons, List.append_assoc, List.append_assoc]
      rwa [hruns, htrail] at hcut

theorem Run.allText_prepend (gap word : Text) (runs : List Run) :
    Run.allText (Run.prepend gap word runs) = gap ++ (word ++ Run.allText runs) := by
  unfold Run.prepend
  split
  · simp [Run.text_body]
  · simp [Run.text_body]

theorem Run.allText_ofPieces (pieces : List Piece) (s : Text) :
    Run.allText (Run.ofPieces pieces) ++ s = Layout.text ⟨pieces, s⟩ := by
  induction pieces with
  | nil => rfl
  | cons p pieces ih =>
      obtain ⟨gap, key, value, closed⟩ := p
      cases key with
      | some key =>
          simp only [Run.ofPieces, Run.allText_cons, Run.text_field, Layout.text_cons, Lexeme.text,
            List.append_assoc, ih]
      | none =>
          simp only [Run.ofPieces, Run.allText_prepend, Layout.text_cons, Lexeme.text,
            List.append_assoc, ih]

/-- A lexeme without a key begins a run of free text, or joins the one that follows. -/
theorem LaidRuns.prepend {gap word s : Text} {closed : Bool} {runs : List Run}
    (hg : IsGap gap) (hv : Lexeme.Valid ⟨none, word, closed⟩)
    (hb : Boundary closed (Run.allText runs ++ s)) (h : LaidRuns runs s) :
    LaidRuns (Run.prepend gap word runs) s := by
  have hstart (hf : ∀ next ∈ runs.head?, next.isField = true) :
      LaidRuns (Run.prepend gap word runs) s := by
    rw [Run.prepend_of_field hf]
    exact .run hg (.body (.lexeme hv)) hb (.inr hf) h
  cases h with
  | trailing => exact hstart (by simp)
  | @run r closed' runs s hi hr hb' hf h =>
      obtain ⟨inner, key, value⟩ := r
      cases hr with
      | field hk hval => exact hstart (by simp [Run.isField])
      | body hval =>
          rw [Run.allText_cons, List.append_assoc, List.append_assoc] at hb
          have hne : inner ≠ [] := hb.gap_ne_nil hval.exists_cons
          obtain rfl : closed = true := hb.closed_of_ne_nil (by simp [hne])
          have hnext := hf.resolve_left Bool.false_ne_true
          exact .run hg (.body (.join hv hi hne hval)) hb' (.inr hnext) h

theorem Laid.laidRuns {pieces : List Piece} {s : Text} (h : Laid pieces s) :
    LaidRuns (Run.ofPieces pieces) s := by
  induction h with
  | trailing hs => exact .trailing hs
  | @piece gap l pieces s hg hl hb _ ih =>
      rw [← Run.allText_ofPieces] at hb
      cases hl with
      | keyed hk hv => exact .run hg (.field hk hv) hb (.inl rfl) ih
      | free hne hk hv => exact ih.prepend hg (.free hne hk hv) hb

/-- The runs of a text keep to the grammar and spell the text. -/
theorem laidRuns_layout (s : Text) :
    LaidRuns (Run.ofPieces (layout s).pieces) (layout s).trailing ∧
      Run.allText (Run.ofPieces (layout s).pieces) ++ (layout s).trailing = s := by
  refine ⟨(layout_valid s).laidRuns, ?_⟩
  rw [Run.allText_ofPieces]
  exact layout_text s

/-! ## The empty search text at the end -/

/-- The run that blanks after a last field begin. -/
def Run.prompt (runs : List Run) (trailing : Text) : List Run :=
  if trailing ≠ [] ∧ runs.getLast?.any Run.isField then [⟨trailing, .body, []⟩] else []

theorem Layout.runs_eq (l : Layout) :
    l.runs = Run.ofPieces l.pieces ++ Run.prompt (Run.ofPieces l.pieces) l.trailing := by
  simp only [Layout.runs, Run.prompt]
  split
  · rfl
  · rw [List.append_nil]

theorem Run.prompt_of_nil (s : Text) : Run.prompt [] s = [] := by
  simp [Run.prompt]

theorem Run.prompt_singleton (r : Run) (s : Text) :
    Run.prompt [r] s = if s ≠ [] ∧ r.isField = true then [⟨s, .body, []⟩] else [] := rfl

theorem Run.prompt_nil (runs : List Run) : Run.prompt runs [] = [] := by
  simp [Run.prompt]

theorem Run.prompt_cons (r : Run) {runs : List Run} (h : runs ≠ []) (s : Text) :
    Run.prompt (r :: runs) s = Run.prompt runs s := by
  rw [Run.prompt, List.getLast?_cons_of_ne_nil h, Run.prompt]

theorem Run.any_getLast?_prepend (gap word : Text) (runs : List Run) :
    (Run.prepend gap word runs).getLast?.any Run.isField = runs.getLast?.any Run.isField := by
  fun_cases Run.prepend gap word runs with
  | case1 inner value runs => cases runs <;> rfl
  | case2 => cases runs <;> rfl

theorem Run.ofPieces_eq_nil_iff {pieces : List Piece} : Run.ofPieces pieces = [] ↔ pieces = [] := by
  refine ⟨fun h => ?_, fun h => by rw [h, Run.ofPieces]⟩
  fun_cases Run.ofPieces pieces with
  | case1 => rfl
  | case2 => simp [Run.ofPieces] at h
  | case3 gap value closed pieces =>
      rw [Run.ofPieces] at h
      unfold Run.prepend at h
      split at h <;> cases h

/-- The last run is a field if the last lexeme has a key. -/
theorem Run.any_getLast?_ofPieces (pieces : List Piece) :
    (Run.ofPieces pieces).getLast?.any Run.isField =
      pieces.getLast?.any (·.lexeme.key.isSome) := by
  induction pieces with
  | nil => rfl
  | cons p pieces ih =>
      obtain ⟨gap, key, value, closed⟩ := p
      cases key with
      | some key =>
          cases pieces with
          | nil => rfl
          | cons q pieces =>
              have hne : Run.ofPieces (q :: pieces) ≠ [] :=
                mt Run.ofPieces_eq_nil_iff.mp (List.cons_ne_nil q pieces)
              rw [Run.ofPieces, List.getLast?_cons_of_ne_nil hne, ih, List.getLast?_cons_cons]
      | none =>
          rw [Run.ofPieces, Run.any_getLast?_prepend, ih]
          cases pieces <;> rfl

/-- A query in which runs of the grammar are written has these runs, and the empty search text
where they call for it. -/
theorem LaidRuns.layout_runs {runs : List Run} {s : Text} (h : LaidRuns runs s) :
    (layout (Run.allText runs ++ s)).runs = runs ++ Run.prompt runs s := by
  obtain ⟨hruns, htrail⟩ := h.cut
  rw [Layout.runs_eq, hruns, htrail]

theorem place_append (offset : Nat) (before after : List Run) :
    place offset (before ++ after) =
      place offset before ++ place (offset + byteLength (Run.allText before)) after := by
  induction before generalizing offset with
  | nil => rfl
  | cons r before ih =>
      simp only [List.cons_append, place, ih, Run.allText_cons, byteLength_append, Nat.add_assoc]

end LogFilter
