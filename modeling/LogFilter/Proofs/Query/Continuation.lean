import LogFilter.Proofs.Query.Runs
import LogFilter.Query.Parse

/-!
# What more text leaves alone

Text that is added at the end of a query can change its last clause, and begin new ones. It may
close or lengthen an open quote, make a key of a last word, or go on with free text. All the
clauses before the last one stay as they are (`dropLast_parse_prefix`).
-/

namespace LogFilter

/-! ## Runs before more text -/

/-- A key and a colon begin a run of their own, whatever follows. -/
theorem IsKey.ofPieces_layout {gap name : Text} (hk : IsKey name) (hg : IsGap gap) (rest : Text) :
    Run.ofPieces (layout (gap ++ (name ++ ':' :: rest))).pieces =
      ⟨gap, .field name, (cutValue rest).value⟩ ::
        Run.ofPieces (layout (cutValue rest).rest).pieces := by
  have htext : Lexeme.text ⟨some name, (cutValue rest).value, (cutValue rest).closed⟩ ++
      (cutValue rest).rest = name ++ ':' :: rest := by
    rw [Lexeme.text_keyed, List.append_assoc, List.cons_append, cutValue_append]
  rw [← htext, layout_of_lexeme hg (Lexeme.Valid.keyed hk (isValue_cutValue rest))
    (boundary_cutValue rest), Run.ofPieces]

theorem Run.allText_cons_append (r : Run) (runs : List Run) (s t : Text) :
    Run.allText (r :: runs) ++ s ++ t = r.gap ++ (r.text ++ (Run.allText runs ++ s ++ t)) := by
  simp only [Run.allText_cons, List.append_assoc]

/-- A field at the front of a query stays one, whatever is added at the end. -/
theorem LaidRuns.isField_head?_append {r : Run} {runs : List Run} {s : Text}
    (h : LaidRuns (r :: runs) s) (hf : r.isField = true) (t : Text) :
    ∀ next ∈ (Run.ofPieces (layout (Run.allText (r :: runs) ++ s ++ t)).pieces).head?,
      next.isField = true := by
  obtain ⟨gap, key, value⟩ := r
  cases h with
  | run hg hr =>
      cases hr with
      | body => cases hf
      | @field name value closed hk hv =>
          intro next hn
          rw [Run.allText_cons_append, Run.text_field, List.append_assoc, List.cons_append,
            hk.ofPieces_layout hg] at hn
          obtain rfl := Option.some.inj hn
          rfl

/-- The runs of a query but the last one, where the empty search text counts as one too, are runs
of the query with any more text behind it. -/
theorem LaidRuns.dropLast_prefix {runs : List Run} {s : Text} (h : LaidRuns runs s) (t : Text) :
    (runs ++ Run.prompt runs s).dropLast <+:
      Run.ofPieces (layout (Run.allText runs ++ s ++ t)).pieces := by
  induction h with
  | trailing =>
      rw [Run.prompt_of_nil]
      exact List.nil_prefix
  | @run r closed runs s hg hr hb hf hruns ih =>
      have hkeep (hne : Run.allText runs ++ s ≠ []) :
          Boundary closed (Run.allText runs ++ s ++ t) :=
        hb.append fun hnil => (hne hnil).elim
      rw [Run.allText_cons_append]
      cases runs with
      | nil =>
          rw [Run.prompt_singleton]
          split
          · next hp =>
            -- the blanks behind the field have ended it already
            rw [(hr.ofPieces_layout hg (hkeep hp.1) (.inl hp.2)).1]
            exact List.prefix_append [r] _
          · exact List.nil_prefix
      | cons next runs =>
          have hne : Run.allText (next :: runs) ++ s ≠ [] := fun hnil =>
            List.cons_ne_nil next runs (hruns.eq_nil hnil).1
          have hnext := hf.imp_right fun hf => hruns.isField_head?_append (hf next rfl) t
          rw [(hr.ofPieces_layout hg (hkeep hne) hnext).1,
            Run.prompt_cons r (List.cons_ne_nil next runs), List.cons_append,
            List.dropLast_cons_of_ne_nil (by simp)]
          exact List.cons_prefix_cons.mpr ⟨rfl, ih⟩

/-! ## Clauses before more text -/

theorem place_prefix {runs more : List Run} (h : runs <+: more) (offset : Nat) :
    place offset runs <+: place offset more := by
  obtain ⟨rest, rfl⟩ := h
  rw [place_append]
  exact List.prefix_append _ _

theorem dropLast_place (offset : Nat) (runs : List Run) :
    (place offset runs).dropLast = place offset runs.dropLast := by
  induction runs generalizing offset with
  | nil => rfl
  | cons r runs ih =>
      cases runs with
      | nil => rfl
      | cons next runs => exact congrArg (List.cons _) (ih _)

/-- Text that is typed at the end of a query leaves all clauses but the last one as they are: each
keeps its key, its value and its offset. -/
theorem dropLast_parse_prefix (s t : Text) : (parse s).dropLast <+: parse (s ++ t) := by
  obtain ⟨hruns, htext⟩ := laidRuns_layout s
  have hprefix := hruns.dropLast_prefix t
  rw [htext, ← Layout.runs_eq] at hprefix
  rw [parse, dropLast_place, parse]
  apply place_prefix
  rw [Layout.runs_eq (layout (s ++ t))]
  exact hprefix.trans (List.prefix_append _ _)

/-- The last word of a run of free text can still become a key. -/
example :
    parse "k:v a b" = [.field "k" "v" 0, .body "a b" 4] ∧
      parse ("k:v a b" ++ ":c") = [.field "k" "v" 0, .body "a" 4, .field "b" "c" 6] := by
  decide +kernel

end LogFilter
