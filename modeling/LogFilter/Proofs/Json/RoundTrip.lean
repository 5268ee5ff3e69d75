import LogFilter.Proofs.Json.Objects
import LogFilter.Proofs.Query.EditText
import LogFilter.Proofs.Query.Offsets

/-!
# Clauses come back from their JSON

Clauses that are written as JSON, on one line or with indents, are read back as they were. The one
thing that gets lost is a field with the name that stands for the body: it comes back as the body.
No clause of a query has such a field, for its name is not a key.
-/

namespace LogFilter

theorem reread_parse (s : Text) : (parse s).map Clause.reread = parse s := by
  conv_rhs => rw [← List.map_id (parse s)]
  refine List.map_congr_left fun c hc => ?_
  have hkey : c.key ≠ .field Key.bodyName := fun hkey =>
    not_isKey_bodyName ((readable_parse s).isKey c hc Key.bodyName hkey)
  rw [Clause.reread_eq, if_neg hkey, id]

namespace Json

/-! ### Lists -/

theorem nextItem_first {g : Text} (hg : IsJsonGap g) {c : Char} (hblank : isJsonBlank c = false)
    (hend : c ≠ ']') (s : Text) : nextItem true (g ++ c :: s) = .ok (some (c :: s)) := by
  rw [nextItem, skipBlanks_gap_cons hg hblank]
  simp

theorem nextItem_comma {g : Text} (hg : IsJsonGap g) {c : Char} (hblank : isJsonBlank c = false)
    (hend : c ≠ ']') (s : Text) : nextItem false (',' :: (g ++ c :: s)) = .ok (some (c :: s)) := by
  rw [nextItem, skipBlanks_cons (by decide)]
  simp [skipBlanks_gap_cons hg hblank, hend]

theorem nextItem_end {g : Text} (hg : IsJsonGap g) (first : Bool) (s : Text) :
    nextItem first (g ++ ']' :: s) = .ok none := by
  rw [nextItem, skipBlanks_gap_cons hg (by decide)]
  rfl

theorem readItems_end {g : Text} (hg : IsJsonGap g) (count : Nat) (first : Bool) (rest : Text) :
    readItems (count + 1) first (g ++ ']' :: rest) = .ok ([], rest) := by
  have hmark : endList (g ++ ']' :: rest) = .ok rest := skipMark_gap hg (by decide) rest
  simp only [readItems, nextItem_end hg, ok_bind, hmark]

theorem writeItems_cons_append (spacing : Spacing) (level : Nat) (item : Json) (items : List Json)
    (s : Text) :
    writeItems spacing level (item :: items) ++ s =
      ',' :: (spacing.newline level ++
        (item.write spacing level ++ (writeItems spacing level items ++ s))) := by
  simp [writeItems]

theorem write_list_append (spacing : Spacing) (level : Nat) (item : Json) (items : List Json)
    (s : Text) :
    (list (item :: items)).write spacing level ++ s =
      '[' :: (spacing.newline (level + 1) ++ (item.write spacing (level + 1) ++
        (writeItems spacing (level + 1) items ++ (spacing.newline level ++ ']' :: s)))) := by
  simp [write]

theorem length_le_length_writeItems (spacing : Spacing) (level : Nat) (items : List Json) :
    items.length ≤ (writeItems spacing level items).length := by
  induction items with
  | nil => exact Nat.zero_le _
  | cons item items ih =>
      have hcomma : (",".toList : Text).length = 1 := rfl
      simp only [writeItems, List.length_append, List.length_cons, hcomma]
      omega

theorem endsNumber_writeItems (spacing : Spacing) (level : Nat) (items : List Json) {s : Text}
    (hs : EndsNumber s) : EndsNumber (writeItems spacing level items ++ s) := by
  cases items with
  | nil => simpa [writeItems] using hs
  | cons item items =>
      rw [writeItems_cons_append]
      exact endsNumber_cons (by decide) _

/-- A written clause starts with a brace, and is read up to what follows it. -/
theorem exists_readClause_write {c : Clause} (hc : c.start ≤ maxOffset) (spacing : Spacing)
    (level : Nat) {s : Text} (hs : EndsNumber s) :
    ∃ t, c.toJson.write spacing level ++ s = '\x7b' :: t ∧
      readClause ('\x7b' :: t) = .ok (c.reread, s) := by
  have hread := takes_readClause hc spacing level isJsonGap_nil s hs
  rw [List.nil_append] at hread
  have hbrace : ∃ t, c.toJson.write spacing level ++ s = '\x7b' :: t := by
    rw [toJson_eq_object, Field.all, List.map_cons, write_object_append]
    exact ⟨_, rfl⟩
  obtain ⟨t, ht⟩ := hbrace
  exact ⟨t, ht, by rwa [ht] at hread⟩

/-- Written clauses are read one after the other. -/
theorem readItems_writeItems {cs : List Clause} (hcs : ∀ c ∈ cs, c.start ≤ maxOffset)
    (spacing : Spacing) (level : Nat) {g : Text} (hg : IsJsonGap g) (rest : Text) {count : Nat}
    (hcount : cs.length < count) :
    readItems count false
        (writeItems spacing level (cs.map Clause.toJson) ++ (g ++ ']' :: rest)) =
      .ok (cs.map Clause.reread, rest) := by
  have hends : EndsNumber (g ++ ']' :: rest) :=
    hg.endsNumber_append (endsNumber_cons (by decide) rest)
  induction cs generalizing count with
  | nil =>
      obtain ⟨count, rfl⟩ := Nat.exists_eq_add_one_of_ne_zero (Nat.ne_of_gt hcount)
      simp only [List.map_nil, writeItems, List.nil_append, readItems_end hg]
  | cons c cs ih =>
      obtain ⟨count, rfl⟩ := Nat.exists_eq_add_one_of_ne_zero (Nat.ne_zero_of_lt hcount)
      have hothers : ∀ c' ∈ cs, c'.start ≤ maxOffset := fun c' hc' => hcs c' (.tail _ hc')
      obtain ⟨t, ht, hclause⟩ := exists_readClause_write (hcs c (.head _)) spacing level
        (endsNumber_writeItems spacing level (cs.map Clause.toJson) hends)
      rw [List.map_cons, writeItems_cons_append, ht, readItems,
        nextItem_comma (spacing.isJsonGap_newline level) (by decide) (by decide)]
      simp only [ok_bind, hclause, ih hothers (Nat.lt_of_succ_lt_succ hcount), List.map_cons]

theorem readItems_list {c : Clause} {cs : List Clause} (hcs : ∀ c' ∈ c :: cs, c'.start ≤ maxOffset)
    (spacing : Spacing) (level : Nat) {g : Text} (hg : IsJsonGap g) (rest : Text) {count : Nat}
    (hcount : cs.length < count) :
    readItems (count + 1) true
        (spacing.newline level ++ (c.toJson.write spacing level ++
          (writeItems spacing level (cs.map Clause.toJson) ++ (g ++ ']' :: rest)))) =
      .ok ((c :: cs).map Clause.reread, rest) := by
  have hends : EndsNumber (g ++ ']' :: rest) :=
    hg.endsNumber_append (endsNumber_cons (by decide) rest)
  have hothers : ∀ c' ∈ cs, c'.start ≤ maxOffset := fun c' hc' => hcs c' (.tail _ hc')
  obtain ⟨t, ht, hclause⟩ := exists_readClause_write (hcs c (.head _)) spacing level
    (endsNumber_writeItems spacing level (cs.map Clause.toJson) hends)
  rw [ht, readItems, nextItem_first (spacing.isJsonGap_newline level) (by decide) (by decide)]
  simp only [ok_bind, hclause, readItems_writeItems hothers spacing level hg rest hcount,
    List.map_cons]

/-- A written list of clauses is read back, with white space before it and after it. -/
theorem readClauses_write {cs : List Clause} (hcs : ∀ c ∈ cs, c.start ≤ maxOffset)
    (spacing : Spacing) {before after : Text} (hbefore : IsJsonGap before)
    (hafter : IsJsonGap after) :
    readClauses (before ++ ((clausesToJson cs).write spacing 0 ++ after)) =
      .ok (cs.map Clause.reread) := by
  have hnothing : skipBlanks after = [] := skipBlanks_of_gap hafter
  cases cs with
  | nil =>
      have hempty : (clausesToJson []).write spacing 0 ++ after = '[' :: ']' :: after := by
        simp [clausesToJson, write]
      have hend : nextItem true (']' :: after) = .ok none := nextItem_end isJsonGap_nil true after
      have hmark : endList (']' :: after) = .ok after :=
        skipMark_gap isJsonGap_nil (by decide) after
      rw [hempty, readClauses, skipBlanks_gap_cons hbefore (by decide)]
      simp only [readItems, hend, hmark, ok_bind, hnothing, if_true, List.map_nil]
  | cons c cs =>
      rw [clausesToJson, List.map_cons, write_list_append, readClauses,
        skipBlanks_gap_cons hbefore (by decide)]
      -- each clause is at least as long as its comma, so that the count is not used up
      have hlen := length_le_length_writeItems spacing (0 + 1) (cs.map Clause.toJson)
      rw [List.length_map] at hlen
      simp only
      rw [readItems_list hcs spacing (0 + 1) (spacing.isJsonGap_newline 0) after]
      · simp only [ok_bind, hnothing, if_true]
      · simp only [List.length_append, List.length_cons]
        omega

theorem readClauses_write_parse {s : Text} (hs : byteLength s ≤ maxOffset) (spacing : Spacing)
    {after : Text} (hafter : IsJsonGap after) :
    readClauses ((clausesToJson (parse s)).write spacing 0 ++ after) = .ok (parse s) := by
  have hstart : ∀ c ∈ parse s, c.start ≤ maxOffset := fun c hc =>
    Nat.le_trans (Clause.start_le_of_mem_parse hc) hs
  have h := readClauses_write hstart spacing isJsonGap_nil hafter
  rwa [reread_parse] at h

/-- Clauses with any keys, values and offsets come back from either spelling of their JSON, but for
a field with the name of the body. The clauses of a query come back unchanged. Offsets are unsigned
64-bit numbers, and a query has no more bytes than these can count. -/
theorem readClauses_clausesToJson (spacing : Spacing) :
    (∀ cs : List Clause, (∀ c ∈ cs, c.start ≤ maxOffset) →
      readClauses ((clausesToJson cs).write spacing 0) =
        .ok (cs.map fun c =>
          { c with key := if c.key = .field Key.bodyName then .body else c.key })) ∧
    ∀ s : Text, byteLength s ≤ maxOffset →
      readClauses ((clausesToJson (parse s)).write spacing 0) = .ok (parse s) := by
  constructor
  · intro cs hcs
    have h := readClauses_write hcs spacing isJsonGap_nil isJsonGap_nil
    rwa [List.nil_append, List.append_nil, funext Clause.reread_eq] at h
  · intro s hs
    have h := readClauses_write_parse hs spacing isJsonGap_nil
    rwa [List.append_nil] at h

/-- A field that is called like the body, control characters, quotes, and the largest offset. -/
theorem readClauses_clausesToJson_reserved :
    let cs : List Clause :=
      [.field "@body" "\"\\\x00\n\x1f/é𝄞" maxOffset, .field [] "@body" 0, .body [] 7]
    let s : Text := "a:\"x\ty\" z "
    (∀ c ∈ cs, c.start ≤ maxOffset) ∧ byteLength s ≤ maxOffset ∧
      readClauses ((clausesToJson cs).write .indented 0) =
        .ok [.body "\"\\\x00\n\x1f/é𝄞" maxOffset, .field [] "@body" 0, .body [] 7] ∧
      readClauses ((clausesToJson (parse s)).write .compact 0) = .ok (parse s) := by
  intro cs s
  have hcs : ∀ c ∈ cs, c.start ≤ maxOffset := by decide
  have hs : byteLength s ≤ maxOffset := by decide
  exact ⟨hcs, hs, (readClauses_clausesToJson .indented).1 cs hcs,
    (readClauses_clausesToJson .compact).2 s hs⟩

end Json

end LogFilter
