import LogFilter.Proofs.Profile.Warnings
import LogFilter.Proofs.Query.EditText

/-!
# Keys that can be typed

A name is the key of a filter in some query if it has key characters only, and at least one. The
valid keys are those of them in whose characters declared keys and typed keys agree
(`isValidKey_iff_typeable`): for all other purposes, what can be declared is what can be typed.
-/

namespace LogFilter

/-- Whether some query has a filter on a field of this name. -/
def Typeable (name : Text) : Prop := ∃ s, ∃ c ∈ parse s, c.key = .field name

/-- A key before a colon is a query, and its one clause has the key. -/
theorem parse_key_colon {name : Text} (h : IsKey name) :
    parse (name ++ [':']) = [.field name [] 0] := by
  have hread : Readable [.field name [] 0] :=
    .cons (.field h .empty) (.inr rfl) (.inl rfl) .nil
  have htext : editText [.field name [] 0] = name ++ [':'] := by
    simp [editText, Clause.text, Clause.field]
  rw [← htext, parse_editText hread]
  rfl

theorem typeable_iff_isKey {name : Text} : Typeable name ↔ IsKey name := by
  constructor
  · rintro ⟨s, c, hc, hkey⟩
    exact (readable_parse s).isKey c hc name hkey
  · intro h
    refine ⟨name ++ [':'], .field name [] 0, ?_, rfl⟩
    rw [parse_key_colon h]
    exact List.mem_singleton_self _

theorem isValidKey_iff {name : Text} :
    isValidKey name = true ↔ name ≠ [] ∧ ∀ c ∈ name, isDeclarable c = true := by
  simp [isValidKey]

/-- Whether each character of a name can be typed in keys and declared in keys, or neither. The
characters that tell the two apart are those of `recentRanges`. -/
def AgreedName (name : Text) : Prop := ∀ c ∈ name, isKeyChar c = isDeclarable c

instance (name : Text) : Decidable (AgreedName name) :=
  decidable_of_iff (name.all fun c => isKeyChar c == isDeclarable c) (by simp [AgreedName])

theorem isValidKey_iff_typeable_and_agreedName {name : Text} :
    isValidKey name = true ↔ Typeable name ∧ AgreedName name := by
  rw [isValidKey_iff, typeable_iff_isKey, IsKey, AgreedName]
  constructor
  · rintro ⟨hne, hall⟩
    have hkey : ∀ c ∈ name, isKeyChar c = true := fun c hc => isKeyChar_of_isDeclarable (hall c hc)
    exact ⟨⟨hne, hkey⟩, fun c hc => (hkey c hc).trans (hall c hc).symm⟩
  · rintro ⟨⟨hne, hkey⟩, hagree⟩
    exact ⟨hne, fun c hc => (hagree c hc).symm.trans (hkey c hc)⟩

/-- No query has a filter on the name that stands for the body. -/
theorem not_typeable_bodyName : ¬ Typeable Key.bodyName :=
  mt typeable_iff_isKey.mp not_isKey_bodyName

/-- Where declared and typed keys agree on its characters, a name is a valid key exactly if some
query has a filter on it; in general it is valid if both hold. No query has a filter on the name of
the body, or on such a name that is warned about as untypeable. -/
theorem isValidKey_iff_typeable (name : Text) :
    (AgreedName name → (isValidKey name = true ↔ Typeable name)) ∧
      (isValidKey name = true ↔ Typeable name ∧ AgreedName name) ∧
      ¬ Typeable Key.bodyName ∧
      ∀ (p : Profile) (clauses : List Clause), .untypeable name ∈ warnings p clauses →
        AgreedName name → ¬ Typeable name := by
  have hvalid : isValidKey name = true ↔ Typeable name ∧ AgreedName name :=
    isValidKey_iff_typeable_and_agreedName
  refine ⟨fun hagree => ?_, hvalid, not_typeable_bodyName, ?_⟩
  · rw [hvalid, and_iff_left hagree]
  · intro p clauses hwarn hagree htyped
    have hnot : isValidKey name = false := (untypeable_mem_warnings.mp hwarn).2
    rw [hvalid.mpr ⟨htyped, hagree⟩] at hnot
    cases hnot

theorem isValidKey_iff_typeable_letters :
    let letters : Text := "näme_Ⅳ２"
    let hyphen : Text := "service-name"
    AgreedName letters ∧ Typeable letters ∧ AgreedName hyphen ∧
      .untypeable hyphen ∈ warnings ⟨"logs", [hyphen], none⟩ [] ∧ ¬ Typeable hyphen := by
  intro letters hyphen
  have hletters : AgreedName letters := by decide +kernel
  have hhyphen : AgreedName hyphen := by decide +kernel
  have hwarn : .untypeable hyphen ∈ warnings ⟨"logs", [hyphen], none⟩ [] := by decide +kernel
  have htyped := ((isValidKey_iff_typeable letters).1 hletters).mp (by decide +kernel)
  exact ⟨hletters, htyped, hhyphen, hwarn,
    (isValidKey_iff_typeable hyphen).2.2.2 _ _ hwarn hhyphen⟩

end LogFilter
