import LogFilter.Proofs.Query.Offsets
import LogFilter.Proofs.Query.ServerText
import Mathlib.Logic.Function.Iterate

/-!
# Repeating the server text

The server text is a query, which has a server text of its own. A value with quotes inside its
quotes loses one layer each time, and is two characters shorter then. So the text settles, after at
most as many rounds as the query has bytes (`serverForm_settles`). The keys never change.
-/

namespace LogFilter

/-- The server text of a query, which is a query again. -/
def serverForm (s : Text) : Text := serverText (parse s)

/-- A value in the form in which the server gets it. -/
def requoted (value : Text) : Text := quote (unquote value)

/-! ## One value -/

/-- A value settles in one round, unless the round takes both quotes of an outer layer off. -/
theorem requoted_settled_or_shorter (s : Text) :
    requoted (requoted s) = requoted s ∨ (requoted s).length + 2 ≤ s.length := by
  cases h : isQuoted (unquote s) with
  | false =>
      left
      rw [requoted, requoted, unquote_quote_of_not_isQuoted h]
  | true =>
      right
      rw [requoted, quote_of_isQuoted h]
      exact length_unquote_of_isQuoted (isQuoted_of_isQuoted_unquote h)

/-- Each round before the last takes two characters. -/
theorem requoted_iterate_succ {rounds : Nat} {s : Text} (h : s.length < 2 * (rounds + 1)) :
    requoted (requoted^[rounds + 1] s) = requoted^[rounds + 1] s := by
  induction rounds generalizing s with
  | zero =>
      rcases requoted_settled_or_shorter s with hs | hs
      · exact hs
      · omega
  | succ rounds ih =>
      rw [Function.iterate_succ_apply]
      rcases requoted_settled_or_shorter s with hs | hs
      · rw [Function.iterate_fixed hs, hs]
      · exact ih (by omega)

/-- The settled values are the escaped texts in double quotes, of texts that are no quoted
tokens. -/
theorem requoted_eq_self_iff {s : Text} :
    requoted s = s ↔ ∃ w, isQuoted w = false ∧ s = '"' :: (escape w ++ ['"']) := by
  constructor
  · intro h
    cases hw : isQuoted (unquote s) with
    | false => exact ⟨unquote s, hw, by rw [← quote_of_not_isQuoted hw]; exact h.symm⟩
    | true =>
        have hlen := length_unquote_of_isQuoted (isQuoted_of_isQuoted_unquote hw)
        rw [requoted, quote_of_isQuoted hw] at h
        rw [h] at hlen
        omega
  · rintro ⟨w, hw, rfl⟩
    rw [← quote_of_not_isQuoted hw, requoted, unquote_quote_of_not_isQuoted hw]

/-! ## The clauses of a query -/

theorem parse_serverForm (s : Text) :
    parse (serverForm s) = rebase 0 ((parse s).map Clause.requote) := by
  have h := readable_parse s
  rw [serverForm, serverText_eq_editText, parse_editText (readable_map_requote h.isKey h.isChain)]

theorem content_parse_serverForm (s : Text) :
    (parse (serverForm s)).map Clause.content =
      ((parse s).map Clause.content).map (Prod.map id requoted) := by
  rw [parse_serverForm, content_rebase, List.map_map, List.map_map]
  rfl

theorem content_parse_iterate (rounds : Nat) (s : Text) :
    (parse (serverForm^[rounds] s)).map Clause.content =
      ((parse s).map Clause.content).map (Prod.map id requoted^[rounds]) := by
  induction rounds with
  | zero => simp
  | succ rounds ih =>
      rw [Function.iterate_succ_apply', content_parse_serverForm, ih, List.map_map,
        Prod.map_comp_map, Function.id_comp, Function.iterate_succ']

/-- A server text is its own edit text. -/
theorem editText_parse_serverForm (s : Text) : editText (parse (serverForm s)) = serverForm s := by
  rw [parse_serverForm, editText_congr (content_rebase 0 _), serverForm, serverText_eq_editText]

/-- A query is its own server text if it is its own edit text and all its values are settled. -/
theorem serverForm_eq_self_iff {s : Text} :
    serverForm s = s ↔
      editText (parse s) = s ∧ ∀ c ∈ parse s, requoted c.value = c.value := by
  constructor
  · intro h
    have hedit := editText_parse_serverForm s
    have hcontent := content_parse_serverForm s
    rw [h] at hedit hcontent
    refine ⟨hedit, ?_⟩
    intro c hc
    rw [List.map_map, List.map_inj_left] at hcontent
    exact (congrArg Prod.snd (hcontent c hc)).symm
  · rintro ⟨hedit, hvalues⟩
    have hsame : (parse s).map Clause.requote = parse s := by
      refine (List.map_congr_left ?_).trans (List.map_id _)
      intro c hc
      exact congrArg (fun value => { c with value := value }) (hvalues c hc)
    rw [serverForm, serverText_eq_editText, hsame, hedit]

/-! ## Rounds -/

theorem Clause.length_value_le {s : Text} {c : Clause} (h : c ∈ parse s) :
    c.value.length ≤ byteLength s := by
  have hstop := Clause.stop_le_of_mem_parse h
  have hvalue := length_le_byteLength c.value
  have htext : byteLength c.value ≤ byteLength c.text := by
    unfold Clause.text
    split
    · exact Nat.le_refl _
    · simp only [byteLength_append, byteLength_cons]
      omega
  simp only [Spot.stop, Clause.spot] at hstop
  omega

/-- After as many rounds as the query has bytes, another one changes nothing. -/
theorem serverForm_iterate_byteLength (s : Text) :
    serverForm (serverForm^[byteLength s] s) = serverForm^[byteLength s] s := by
  cases hrounds : byteLength s with
  | zero =>
      rw [byteLength_eq_zero.mp hrounds]
      decide +kernel
  | succ rounds =>
      have hedit : editText (parse (serverForm^[rounds + 1] s)) = serverForm^[rounds + 1] s := by
        rw [Function.iterate_succ_apply', editText_parse_serverForm]
      refine serverForm_eq_self_iff.mpr ⟨hedit, ?_⟩
      intro c hc
      have hcontent : c.content ∈
          ((parse s).map Clause.content).map (Prod.map id requoted^[rounds + 1]) := by
        rw [← content_parse_iterate]
        exact List.mem_map_of_mem hc
      rw [List.map_map] at hcontent
      obtain ⟨d, hd, heq⟩ := List.mem_map.mp hcontent
      have hvalue : requoted^[rounds + 1] d.value = c.value := congrArg Prod.snd heq
      have hlen := Clause.length_value_le hd
      rw [← hvalue]
      exact requoted_iterate_succ (by omega)

/-- A query of `n` bytes settles after at most `n` rounds. No round changes a key, and once a round
changes nothing, every value is an escaped text in double quotes that is no quoted token itself. -/
theorem serverForm_settles (s : Text) :
    (∃ rounds ≤ byteLength s, serverForm (serverForm^[rounds] s) = serverForm^[rounds] s) ∧
      (∀ rounds, (parse (serverForm^[rounds] s)).map Clause.key = (parse s).map Clause.key) ∧
      ∀ rounds, serverForm (serverForm^[rounds] s) = serverForm^[rounds] s →
        ∀ c ∈ parse (serverForm^[rounds] s),
          ∃ w, isQuoted w = false ∧ c.value = '"' :: (escape w ++ ['"']) := by
  refine ⟨⟨byteLength s, Nat.le_refl _, serverForm_iterate_byteLength s⟩, ?_, ?_⟩
  · intro rounds
    have hkey : Clause.key = Prod.fst ∘ Clause.content := rfl
    have h := congrArg (List.map Prod.fst) (content_parse_iterate rounds s)
    rw [hkey, ← List.map_map, h, ← List.map_map, List.map_map, List.map_map, List.map_map]
    rfl
  · intro rounds h c hc
    exact requoted_eq_self_iff.mp ((serverForm_eq_self_iff.mp h).2 c hc)

/-- Three layers of quotes are three rounds. -/
example :
    serverForm "k:\"\\\"'a'\\\"\"" = "k:\"'a'\"" ∧ serverForm "k:\"'a'\"" = "k:'a'" ∧
      serverForm "k:'a'" = "k:\"a\"" ∧ serverForm "k:\"a\"" = "k:\"a\"" := by
  decide +kernel

end LogFilter
