import LogFilter.Proofs.Query.EditText
import LogFilter.Proofs.Query.Quoting
import Mathlib.Data.List.Chain

/-!
# The server text

The server text of clauses is the edit text of the same clauses with their values quoted anew.
Whatever the values are, it is read back as these clauses. A value that holds a quoted token inside
its quotes is passed on with one layer less, and then means another text.
-/

namespace LogFilter

/-- Clauses whose fields can be declared, and of which no two neighbours are free text. -/
structure Writable (cs : List Clause) : Prop where
  keys : ∀ c ∈ cs, ∀ name, c.key = .field name → isValidKey name = true
  apart : cs.IsChain fun c d => ¬ (c.isBody = true ∧ d.isBody = true)

theorem writable_iff {cs : List Clause} :
    Writable cs ↔
      (cs.all fun c => match c.key with | .body => true | .field name => isValidKey name) = true ∧
        cs.IsChain fun c d => ¬ (c.isBody = true ∧ d.isBody = true) := by
  rw [List.all_eq_true]
  constructor
  · rintro ⟨hkeys, hapart⟩
    refine ⟨?_, hapart⟩
    intro c hc
    split
    · rfl
    · next name hname => exact hkeys c hc name hname
  · rintro ⟨hkeys, hapart⟩
    refine ⟨?_, hapart⟩
    intro c hc name hname
    simpa [hname] using hkeys c hc

instance (cs : List Clause) : Decidable (Writable cs) := decidable_of_iff' _ writable_iff

/-! ## Where clauses stand -/

/-- The edit text of clauses that others follow: a space stands after each of them. -/
def leadText (cs : List Clause) : Text := cs.flatMap fun c => c.text ++ [' ']

theorem editText_cons (c : Clause) (cs : List Clause) :
    ∃ rest, editText (c :: cs) = c.text ++ rest := by
  cases cs with
  | nil => exact ⟨[], by simp [editText]⟩
  | cons d cs => exact ⟨' ' :: editText (d :: cs), editText_cons_cons c d cs⟩

theorem editText_append_cons (before : List Clause) (c : Clause) (after : List Clause) :
    editText (before ++ c :: after) = leadText before ++ editText (c :: after) := by
  induction before with
  | nil => rfl
  | cons d before ih =>
      have hlead : leadText (d :: before) = d.text ++ ' ' :: leadText before := by
        simp [leadText]
      rw [hlead, List.append_assoc, List.cons_append, List.cons_append, ← ih]
      cases before with
      | nil => exact editText_cons_cons d c after
      | cons e before => exact editText_cons_cons d e _

theorem length_rebase (offset : Nat) (cs : List Clause) :
    (rebase offset cs).length = cs.length := by
  have h := congrArg List.length (content_rebase offset cs)
  simpa using h

theorem getElem?_rebase (before : List Clause) (c : Clause) (after : List Clause) (offset : Nat) :
    (rebase offset (before ++ c :: after))[before.length]? =
      some { c with start := offset + byteLength (leadText before) } := by
  induction before generalizing offset with
  | nil => rfl
  | cons d before ih =>
      have hlead : byteLength (leadText (d :: before)) =
          byteLength d.text + 1 + byteLength (leadText before) := by
        simp only [leadText, List.flatMap_cons, byteLength_append]
        rfl
      rw [List.cons_append, rebase, List.length_cons, List.getElem?_cons_succ, ih, hlead]
      simp only [Nat.add_assoc]

/-! ## Reading the server text back -/

/-- The clause with the value that the server gets. -/
def Clause.requote (c : Clause) : Clause := { c with value := c.serverValue }

@[simp] theorem Clause.isBody_requote (c : Clause) : c.requote.isBody = c.isBody := rfl

theorem serverText_eq_editText (cs : List Clause) :
    serverText cs = editText (cs.map Clause.requote) := by
  rw [serverText, editText, List.map_map]
  rfl

theorem Clause.spelled_requote {c : Clause} (h : ∀ name, c.key = .field name → IsKey name) :
    Spelled c.requote.key c.requote.value true :=
  (valid_quote (unquote c.value)).spelled h

/-- Clauses with their values quoted anew can be read back, whatever the values were. -/
theorem readable_map_requote {cs : List Clause}
    (hkeys : ∀ c ∈ cs, ∀ name, c.key = .field name → IsKey name)
    (hapart : cs.IsChain fun c d => ¬ (c.isBody = true ∧ d.isBody = true)) :
    Readable (cs.map Clause.requote) := by
  induction cs with
  | nil => exact .nil
  | cons c cs ih =>
      have hc := Clause.spelled_requote (hkeys c List.mem_cons_self)
      have htail := ih (fun d hd => hkeys d (List.mem_cons_of_mem c hd)) hapart.tail
      refine .cons hc (.inl rfl) ?_ htail
      cases hbody : c.isBody with
      | false => exact .inl hbody
      | true =>
          right
          intro d hd
          rw [List.head?_map] at hd
          obtain ⟨e, he, rfl⟩ := Option.map_eq_some_iff.mp hd
          have hnot := (List.isChain_cons.mp hapart).1 e he
          rw [Clause.isBody_requote]
          cases hnext : e.isBody with
          | false => rfl
          | true => exact (hnot ⟨hbody, hnext⟩).elim

theorem Writable.readable {cs : List Clause} (h : Writable cs) :
    Readable (cs.map Clause.requote) :=
  readable_map_requote (fun c hc name hname => isKey_of_isValidKey (h.keys c hc name hname)) h.apart

/-- The server text is read back as the clauses it was made of: as many, each with its key and the
value that was written, at the byte offset at which it was written. -/
theorem parse_serverText {cs : List Clause} (h : Writable cs) :
    (parse (serverText cs)).length = cs.length ∧
      ∀ before c after, cs = before ++ c :: after →
        let lead := before.flatMap fun d => d.serverText ++ [' ']
        (parse (serverText cs))[before.length]? =
            some ⟨c.key, quote (unquote c.value), byteLength lead⟩ ∧
          ∃ rest, serverText cs = lead ++ (c.serverText ++ rest) := by
  have hparse : parse (serverText cs) = rebase 0 (cs.map Clause.requote) := by
    rw [serverText_eq_editText, parse_editText h.readable]
  refine ⟨by rw [hparse, length_rebase, List.length_map], ?_⟩
  intro before c after hcs lead
  have hmap : cs.map Clause.requote =
      before.map Clause.requote ++ c.requote :: after.map Clause.requote := by
    rw [hcs, List.map_append, List.map_cons]
  have hlead : leadText (before.map Clause.requote) = lead :=
    List.flatMap_map _ _ before
  constructor
  · have hget := getElem?_rebase (before.map Clause.requote) c.requote (after.map Clause.requote) 0
    rw [List.length_map, Nat.zero_add, hlead, ← hmap, ← hparse] at hget
    exact hget
  · obtain ⟨rest, hrest⟩ := editText_cons c.requote (after.map Clause.requote)
    refine ⟨rest, ?_⟩
    rw [serverText_eq_editText, hmap, editText_append_cons, hlead, hrest]
    rfl

theorem parse_serverText_nested_quotes :
    let cs : List Clause := [.field "path" "C:\\" 9, .body "say \"hi\"" 0, .field "k" "'\"a\"'" 2]
    Writable cs ∧ (parse (serverText cs)).length = 3 ∧
      (parse (serverText cs))[1]? = some ⟨.body, "\"say \\\"hi\\\"\"", 12⟩ := by
  intro cs
  have hcs : Writable cs := by
    refine ⟨?_, by decide⟩
    intro c hc name hname
    simp only [cs, List.mem_cons, List.not_mem_nil, or_false] at hc
    rcases hc with rfl | rfl | rfl
    · obtain rfl := Key.field.inj hname
      decide +kernel
    · cases hname
    · obtain rfl := Key.field.inj hname
      decide +kernel
  have h := parse_serverText hcs
  refine ⟨hcs, h.1, ?_⟩
  have hbody := (h.2 [.field "path" "C:\\" 9] (.body "say \"hi\"" 0) [.field "k" "'\"a\"'" 2] rfl).1
  rw [show [Clause.field "path" "C:\\" 9].length = 1 from rfl] at hbody
  rw [hbody]
  decide +kernel

/-! ## What the server text means -/

/-- The written value is in double quotes and stands for the same text exactly where the text is
no quoted token. -/
theorem serverValue_faithful_iff (c : Clause) :
    (isQuotedBy .double c.serverValue = true ∧ unquote c.serverValue = unquote c.value) ↔
      isQuoted (unquote c.value) = false := by
  rw [Clause.serverValue, unquote_quote_eq_iff, isQuotedBy_double_quote]
  constructor
  · intro h
    exact h.2
  · intro h
    refine ⟨?_, h⟩
    rw [isQuoted, Bool.or_eq_false_iff] at h
    exact h.2

/-- Quotes inside quotes: the server gets the inner ones, and single ones if they are single. -/
theorem serverValue_single_in_double :
    ∃ c ∈ parse "k:\"'a'\"", isQuotedBy .double c.serverValue = false ∧
      unquote c.value = "'a'" ∧ unquote c.serverValue = "a" := by
  decide +kernel

/-! ## Which clauses the server can tell apart -/

/-- What the server is told of a clause: its key, and the text that its value stands for. -/
def Clause.meaning (c : Clause) : Key × Text := (c.key, unquote c.value)

theorem forall₂_meaning_iff {cs ds : List Clause} :
    List.Forall₂ (fun c d => c.key = d.key ∧ unquote c.value = unquote d.value) cs ds ↔
      cs.map Clause.meaning = ds.map Clause.meaning := by
  rw [← List.forall₂_eq_eq_eq (α := Key × Text)]
  simp only [List.forall₂_map_left_iff, List.forall₂_map_right_iff, Clause.meaning,
    Prod.mk.injEq]

theorem serverText_congr {cs ds : List Clause}
    (h : cs.map Clause.meaning = ds.map Clause.meaning) : serverText cs = serverText ds := by
  have hmap (es : List Clause) : (es.map Clause.requote).map Clause.content =
      (es.map Clause.meaning).map fun (key, s) => (key, quote s) := by
    rw [List.map_map, List.map_map]
    rfl
  rw [serverText_eq_editText, serverText_eq_editText]
  apply editText_congr
  rw [hmap, hmap, h]

/-- The meaning of clauses as it can be read off their server text. -/
theorem Writable.map_meaning_parse {cs : List Clause} (h : Writable cs)
    (hplain : ∀ c ∈ cs, isQuoted (unquote c.value) = false) :
    (parse (serverText cs)).map Clause.meaning = cs.map Clause.meaning := by
  have hmap (es : List Clause) : es.map Clause.meaning =
      (es.map Clause.content).map fun (key, value) => (key, unquote value) := by
    rw [List.map_map]
    rfl
  rw [serverText_eq_editText, parse_editText h.readable, hmap, content_rebase, ← hmap,
    List.map_map]
  apply List.map_congr_left
  intro c hc
  exact congrArg (Prod.mk c.key) (unquote_quote_of_not_isQuoted (hplain c hc))

/-- Clauses whose values stand for no quoted tokens have the same server text exactly if they are
as many and agree one by one in the key and in the text that the value stands for. So the spelling
of a value makes no difference, and no two meanings collide. -/
theorem serverText_eq_iff {cs ds : List Clause} (hcs : Writable cs) (hds : Writable ds)
    (hcplain : ∀ c ∈ cs, isQuoted (unquote c.value) = false)
    (hdplain : ∀ d ∈ ds, isQuoted (unquote d.value) = false) :
    serverText cs = serverText ds ↔
      List.Forall₂ (fun c d => c.key = d.key ∧ unquote c.value = unquote d.value) cs ds := by
  rw [forall₂_meaning_iff]
  constructor
  · intro h
    rw [← hcs.map_meaning_parse hcplain, h, hds.map_meaning_parse hdplain]
  · exact serverText_congr

theorem serverText_eq_iff_spellings :
    let cs : List Clause := [.field "k" "'a b'" 0, .body "say \"hi\"" 8]
    let ds : List Clause := [.field "k" "\"a b\"" 3, .body "\"say \\\"hi\\\"\"" 5]
    let es : List Clause := [.field "k" "a b\" \"say \\\"hi\\\"" 0]
    serverText cs = serverText ds ∧ serverText cs ≠ serverText es := by
  intro cs ds es
  have hcs : Writable cs ∧ ∀ c ∈ cs, isQuoted (unquote c.value) = false := by decide +kernel
  have hds : Writable ds ∧ ∀ c ∈ ds, isQuoted (unquote c.value) = false := by decide +kernel
  have hes : Writable es ∧ ∀ c ∈ es, isQuoted (unquote c.value) = false := by decide +kernel
  constructor
  · rw [serverText_eq_iff hcs.1 hds.1 hcs.2 hds.2]
    exact .cons (by decide +kernel) (.cons (by decide +kernel) .nil)
  · rw [ne_eq, serverText_eq_iff hcs.1 hes.1 hcs.2 hes.2]
    intro h
    cases h.length_eq

end LogFilter
