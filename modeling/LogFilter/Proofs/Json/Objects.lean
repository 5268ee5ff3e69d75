import LogFilter.Json.Clauses
import LogFilter.Proofs.Json.Grammar

/-!
# Reading what was written: one clause

The object that a clause is written as is read field by field into a draft. A field that has been
written fills its place in the draft and leaves the others as they are, so that the fields may come
in any order, each of them once.
-/

namespace LogFilter

/-- The clause that its JSON denotes: a field with the name of the body is the body. -/
def Clause.reread (c : Clause) : Clause := { c with key := .ofText c.key.text }

theorem Key.ofText_text (k : Key) :
    ofText k.text = if k = .field bodyName then .body else k := by
  cases k with
  | body => rfl
  | field name =>
      simp only [text, ofText, field.injEq]
      rfl

theorem Clause.reread_eq (c : Clause) :
    c.reread = { c with key := if c.key = .field Key.bodyName then .body else c.key } := by
  rw [reread, Key.ofText_text]

namespace Json

/-- A reader takes a text for a value. It leaves all that follows, as long as that cannot go on a
number. -/
def Takes {α : Type} (read : Text → Except Fault (α × Text)) (t : Text) (a : α) : Prop :=
  ∀ rest, EndsNumber rest → read (t ++ rest) = .ok (a, rest)

/-! ### Texts, offsets and operators -/

theorem readText_append (expected : Expected) {g s t : Text} (hg : IsJsonGap g)
    (h : SpellsText s t) (rest : Text) : readText expected (g ++ (t ++ rest)) = .ok (s, rest) := by
  obtain ⟨content, hcontent, rfl⟩ := h
  rw [List.cons_append, List.append_assoc, readText, skipBlanks_gap_cons hg (by decide)]
  exact scanString_append hcontent rest

theorem takes_readOffset {g : Text} (hg : IsJsonGap g) {n : Nat} (hn : n ≤ maxOffset) :
    Takes readOffset (g ++ Text.ofNat n) n := by
  intro rest hrest
  obtain ⟨c, digits, hdigits, hc⟩ := exists_ofNat_cons n
  have hread := readNumber_ofNat hn hrest
  rw [hdigits, List.cons_append] at hread
  rw [List.append_assoc, hdigits, List.cons_append, readOffset,
    skipBlanks_gap_cons hg (isJsonBlank_of_isDigit hc)]
  simp only [hc, or_true, if_true, hread]

/-- The operator is the text of an equals sign, or an object that gives it no more than `null`. -/
inductive SpellsOperator : Text → Prop
  | name {t : Text} : SpellsText equalsSign t → SpellsOperator t
  | object {g₁ t g₂ g₃ g₄ : Text} : IsJsonGap g₁ → SpellsText equalsSign t → IsJsonGap g₂ →
      IsJsonGap g₃ → IsJsonGap g₄ →
      SpellsOperator ('\x7b' :: (g₁ ++ (t ++ (g₂ ++ ':' :: (g₃ ++ ("null" ++ (g₄ ++ ['\x7d'])))))))

theorem SpellsOperator.isJsonValue {t : Text} (h : SpellsOperator t) : IsJsonValue t := by
  cases h with
  | name h => exact h.isJsonValue
  | object hg₁ h hg₂ hg₃ hg₄ =>
      obtain ⟨content, hcontent, rfl⟩ := h
      have hlead := IsLead.object hg₁ hcontent.isContent hg₂
      have hvalue := IsPart.brackets (.one hlead hg₃ .null hg₄)
      simpa [IsJsonValue, Bracket.opening, Bracket.close] using hvalue

theorem readOperatorName_append {g t : Text} (hg : IsJsonGap g) (h : SpellsText equalsSign t)
    (rest : Text) : readOperatorName (g ++ (t ++ rest)) = .ok rest := by
  simp only [readOperatorName, readText_append .operator hg h, ok_bind, if_true]

theorem readNull_append {g : Text} (hg : IsJsonGap g) (rest : Text) :
    readNull (g ++ ("null" ++ rest)) = .ok rest := by
  have hnull : ("null" ++ rest : Text) = 'n' :: ("ull" ++ rest) := rfl
  rw [hnull, readNull, skipBlanks_gap_cons hg (by decide)]
  rfl

theorem readOperator_append {g t : Text} (hg : IsJsonGap g) (h : SpellsOperator t) (rest : Text) :
    readOperator (g ++ (t ++ rest)) = .ok rest := by
  cases h with
  | name h =>
      have hname := readOperatorName_append isJsonGap_nil h rest
      obtain ⟨content, -, rfl⟩ := h
      rw [List.cons_append, readOperator, skipBlanks_gap_cons hg (by decide)]
      exact hname
  | object hg₁ h hg₂ hg₃ hg₄ =>
      simp only [List.cons_append, List.append_assoc, List.nil_append]
      rw [readOperator, skipBlanks_gap_cons hg (by decide)]
      change (readOperatorName _ >>= _) = _
      rw [readOperatorName_append hg₁ h, ok_bind, skipMark_gap hg₂ (by decide), ok_bind,
        readNull_append hg₃, ok_bind, skipMark_gap hg₄ (by decide)]

/-! ### Fields -/

namespace Field

def all : List Field := [key, operator, value, offsetStart]

/-- The spellings of a field of a clause that has the key text `k`, the value `v` and the start
`n`. -/
def Spells (k v : Text) (n : Nat) : Field → Text → Prop
  | key, t => SpellsText k t
  | operator, t => SpellsOperator t
  | value, t => SpellsText v t
  | offsetStart, t => t = Text.ofNat n

theorem Spells.isJsonValue {k v : Text} {n : Nat} {f : Field} {t : Text} (h : f.Spells k v n t) :
    IsJsonValue t := by
  cases f with
  | key => exact SpellsText.isJsonValue h
  | operator => exact SpellsOperator.isJsonValue h
  | value => exact SpellsText.isJsonValue h
  | offsetStart =>
      obtain rfl : t = Text.ofNat n := h
      exact isJsonValue_ofNat n

/-- What a field of a clause is written as. -/
def json (c : Clause) : Field → Json
  | key => .text c.key.text
  | operator => .text equalsSign
  | value => .text c.value
  | offsetStart => .number c.start

theorem spells_write (c : Clause) (f : Field) (spacing : Spacing) (level : Nat) :
    f.Spells c.key.text c.value c.start ((f.json c).write spacing level) := by
  cases f with
  | key => exact spellsText_writeText c.key.text
  | operator => exact .name (spellsText_writeText equalsSign)
  | value => exact spellsText_writeText c.value
  | offsetStart => rfl

theorem ofName?_name (f : Field) : ofName? f.name = some f := by
  cases f <;> rfl

end Field

theorem toJson_eq_object (c : Clause) :
    c.toJson = .object (Field.all.map fun f => (f.name, f.json c)) := rfl

namespace Draft

/-- The draft with one more field, which is that of a clause. -/
def fill (c : Clause) (d : Draft) : Field → Draft
  | .key => { d with key := some c.key.text }
  | .operator => { d with operator := some () }
  | .value => { d with value := some c.value }
  | .offsetStart => { d with start := some c.start }

theorem has_empty (f : Field) : empty.has f = false := by
  cases f <;> rfl

theorem has_fill_of_ne {c : Clause} {d : Draft} {f f' : Field} (h : f ≠ f') :
    (d.fill c f).has f' = d.has f' := by
  cases f <;> cases f' <;> first | rfl | exact (h rfl).elim

/-- Of fields that are all different, filling one leaves the others to be read. -/
theorem has_fill_of_nodup {c : Clause} {d : Draft} {f : Field} {fs : List Field}
    (hnodup : (f :: fs).Nodup) (hd : ∀ f' ∈ f :: fs, d.has f' = false) :
    ∀ f' ∈ fs, (d.fill c f).has f' = false := by
  intro f' hf'
  have hne : f ≠ f' := by
    rintro rfl
    exact (List.nodup_cons.mp hnodup).1 hf'
  rw [has_fill_of_ne hne]
  exact hd f' (.tail _ hf')

theorem takes_readField {c : Clause} (hc : c.start ≤ maxOffset) (d : Draft) {f : Field} {g t : Text}
    (hg : IsJsonGap g) (h : f.Spells c.key.text c.value c.start t) :
    Takes (d.readField f) (g ++ t) (d.fill c f) := by
  intro rest hrest
  cases f with
  | key =>
      have hkey := readText_append .text hg h rest
      simp only [readField, List.append_assoc, hkey, map_ok, fill]
  | operator =>
      have hoperator := readOperator_append hg h rest
      simp only [readField, List.append_assoc, hoperator, map_ok, fill]
  | value =>
      have hvalue := readText_append .text hg h rest
      simp only [readField, List.append_assoc, hvalue, map_ok, fill]
  | offsetStart =>
      obtain rfl : t = Text.ofNat c.start := h
      have hstart := takes_readOffset hg hc rest hrest
      simp only [readField, hstart, map_ok, fill]

end Draft

/-! ### Objects -/

theorem readMember_append {d : Draft} {name content g : Text} (hcontent : Json.Spells name content)
    (hg : IsJsonGap g) (s : Text) :
    readMember d (content ++ '"' :: (g ++ ':' :: s)) =
      match Field.ofName? name with
      | some f =>
        if d.has f then .error (.mismatch (.duplicateField name)) else d.readField f s
      | none => (skipValue s).map (d, ·) := by
  have hmark : skipMark ':' (g ++ ':' :: s) = .ok s := skipMark_gap hg (by decide) s
  simp only [readMember, scanString_append hcontent, ok_bind, hmark]
  cases Field.ofName? name with
  | some f => rfl
  | none => cases skipValue s <;> rfl

theorem takes_readMember {d d' : Draft} {name content : Text} {f : Field}
    (hcontent : Json.Spells name content) (hname : Field.ofName? name = some f)
    (hd : d.has f = false) {g value : Text} (hg : IsJsonGap g)
    (hvalue : Takes (d.readField f) value d') :
    Takes (readMember d) (content ++ '"' :: (g ++ ':' :: value)) d' := by
  intro rest hrest
  rw [List.append_assoc, List.cons_append, List.append_assoc, List.cons_append,
    readMember_append hcontent hg]
  simp only [hname, hd, hvalue rest hrest, Bool.false_eq_true, if_false]

theorem nextField_first {g : Text} (hg : IsJsonGap g) (s : Text) :
    nextField true (g ++ '"' :: s) = .ok (some s) := by
  rw [nextField, skipBlanks_gap_cons hg (by decide)]
  simp

theorem nextField_comma {g : Text} (hg : IsJsonGap g) (s : Text) :
    nextField false (',' :: (g ++ '"' :: s)) = .ok (some s) := by
  have hmark : skipMark '"' (g ++ '"' :: s) = .ok s := skipMark_gap hg (by decide) s
  rw [nextField, skipBlanks_cons (by decide)]
  simp [hmark]

theorem nextField_end {g : Text} (hg : IsJsonGap g) (first : Bool) (s : Text) :
    nextField first (g ++ '\x7d' :: s) = .ok none := by
  rw [nextField, skipBlanks_gap_cons hg (by decide)]
  rfl

theorem readMembers_end {g : Text} (hg : IsJsonGap g) (count : Nat) (first : Bool) (d : Draft)
    (rest : Text) :
    readMembers (count + 1) first d (g ++ '\x7d' :: rest) = d.finish.map (·, rest) := by
  have hmark : skipMark '\x7d' (g ++ '\x7d' :: rest) = .ok rest := skipMark_gap hg (by decide) rest
  simp only [readMembers, nextField_end hg, ok_bind, hmark]
  cases d.finish <;> rfl

/-- A field as it is written, from behind the opening quote of its name. -/
def fieldText (spacing : Spacing) (level : Nat) (name : Text) (value : Json) : Text :=
  name.flatMap writeChar ++ '"' :: (spacing.colon ++ value.write spacing level)

theorem writeFields_cons_append (spacing : Spacing) (level : Nat) (name : Text) (value : Json)
    (fields : List (Text × Json)) (s : Text) :
    writeFields spacing level ((name, value) :: fields) ++ s =
      ',' :: (spacing.newline level ++ '"' :: (fieldText spacing level name value ++
        (writeFields spacing level fields ++ s))) := by
  simp [writeFields, fieldText, writeText]

theorem write_object_append (spacing : Spacing) (level : Nat) (name : Text) (value : Json)
    (fields : List (Text × Json)) (s : Text) :
    (object ((name, value) :: fields)).write spacing level ++ s =
      '\x7b' :: (spacing.newline (level + 1) ++ '"' :: (fieldText spacing (level + 1) name value ++
        (writeFields spacing (level + 1) fields ++ (spacing.newline level ++ '\x7d' :: s)))) := by
  simp [write, fieldText, writeText]

theorem length_le_length_writeFields (spacing : Spacing) (level : Nat)
    (fields : List (Text × Json)) :
    fields.length ≤ (writeFields spacing level fields).length := by
  induction fields with
  | nil => exact Nat.zero_le _
  | cons field fields ih =>
      have hcomma : (",".toList : Text).length = 1 := rfl
      simp only [writeFields, List.length_append, List.length_cons, hcomma]
      omega

theorem endsNumber_writeFields (spacing : Spacing) (level : Nat) (fields : List (Text × Json))
    {s : Text} (hs : EndsNumber s) : EndsNumber (writeFields spacing level fields ++ s) := by
  cases fields with
  | nil => simpa [writeFields] using hs
  | cons field fields =>
      rw [writeFields_cons_append]
      exact endsNumber_cons (by decide) _

section Clauses

variable {c : Clause} (hc : c.start ≤ maxOffset) (spacing : Spacing) (level : Nat)

include hc in
theorem takes_readMember_field {d : Draft} {f : Field} (hd : d.has f = false) :
    Takes (readMember d) (fieldText spacing level f.name (f.json c)) (d.fill c f) := by
  obtain ⟨g, hg, hcolon⟩ := spacing.exists_colon
  have hvalue := d.takes_readField hc hg (f.spells_write c spacing level)
  rw [fieldText, hcolon]
  exact takes_readMember (spells_flatMap_writeChar f.name) f.ofName?_name hd isJsonGap_nil hvalue

include hc in
/-- Written fields of a clause fill a draft, one after the other. -/
theorem readMembers_writeFields {g : Text} (hg : IsJsonGap g) (rest : Text) {fs : List Field}
    {d : Draft} {count : Nat} (hcount : fs.length < count) (hnodup : fs.Nodup)
    (hd : ∀ f ∈ fs, d.has f = false) :
    readMembers count false d
        (writeFields spacing level (fs.map fun f => (f.name, f.json c)) ++ (g ++ '\x7d' :: rest)) =
      (fs.foldl (Draft.fill c) d).finish.map (·, rest) := by
  have hends : EndsNumber (g ++ '\x7d' :: rest) :=
    hg.endsNumber_append (endsNumber_cons (by decide) rest)
  induction fs generalizing d count with
  | nil =>
      obtain ⟨count, rfl⟩ := Nat.exists_eq_add_one_of_ne_zero (Nat.ne_of_gt hcount)
      simp only [List.map_nil, writeFields, List.nil_append, readMembers_end hg, List.foldl_nil]
  | cons f fs ih =>
      obtain ⟨count, rfl⟩ := Nat.exists_eq_add_one_of_ne_zero (Nat.ne_zero_of_lt hcount)
      have hmember := takes_readMember_field hc spacing level (hd f (.head _)) _
        (endsNumber_writeFields spacing level (fs.map fun f => (f.name, f.json c)) hends)
      simp only [List.map_cons, writeFields_cons_append, readMembers,
        nextField_comma (spacing.isJsonGap_newline level), ok_bind, hmember, List.foldl_cons]
      exact ih (Nat.lt_of_succ_lt_succ hcount) (List.nodup_cons.mp hnodup).2
        (Draft.has_fill_of_nodup hnodup hd)

include hc in
/-- An object with some fields of a clause is read as a draft with these fields. -/
theorem readClause_object {f : Field} {fs : List Field} (hnodup : (f :: fs).Nodup) {g : Text}
    (hg : IsJsonGap g) (rest : Text) :
    readClause (g ++
        ((object ((f :: fs).map fun f => (f.name, f.json c))).write spacing level ++ rest)) =
      ((f :: fs).foldl (Draft.fill c) .empty).finish.map (·, rest) := by
  have hgap := spacing.isJsonGap_newline level
  have hends : EndsNumber (spacing.newline level ++ '\x7d' :: rest) :=
    hgap.endsNumber_append (endsNumber_cons (by decide) rest)
  have hmember := takes_readMember_field hc spacing (level + 1) (Draft.has_empty f) _
    (endsNumber_writeFields spacing (level + 1) (fs.map fun f => (f.name, f.json c)) hends)
  have hothers := Draft.has_fill_of_nodup (c := c) hnodup fun f' _ => Draft.has_empty f'
  rw [List.map_cons, write_object_append, readClause, skipBlanks_gap_cons hg (by decide)]
  simp only [readMembers, nextField_first (spacing.isJsonGap_newline (level + 1)), ok_bind,
    hmember]
  rw [readMembers_writeFields hc spacing (level + 1) hgap rest _ (List.nodup_cons.mp hnodup).2
    hothers, List.foldl_cons]
  -- each field is at least as long as its comma, so that the count is not used up
  have hlen := length_le_length_writeFields spacing (level + 1) (fs.map fun f => (f.name, f.json c))
  simp only [List.length_map, List.length_append, List.length_cons] at hlen ⊢
  omega

include hc in
theorem takes_readClause {g : Text} (hg : IsJsonGap g) :
    Takes readClause (g ++ c.toJson.write spacing level) c.reread := by
  intro rest _
  rw [List.append_assoc, toJson_eq_object]
  exact readClause_object hc spacing level (by decide) hg rest

end Clauses

end Json

end LogFilter
