import LogFilter.Display.Paint

/-!
# Painted texts

A shown text is a plain one of which some pieces are painted (`Painted`). Without coloring it is the
plain text. With coloring, the plain text is left once the escape sequences are deleted, if it has
no escape character of its own (`Painted.unstyled_eq`).
-/

namespace LogFilter

/-! ## Deleting escape sequences -/

/-- The text without its escape sequences, which are all from `ESC [` to the next `m`. With `inside`
the text begins within such a sequence. -/
def unstyledFrom : (inside : Bool) → Text → Text
  | _, [] => []
  | true, c :: s => unstyledFrom (c != 'm') s
  | false, c :: s =>
    if c = '\x1b' ∧ s.head? = some '[' ∧ 'm' ∈ s then unstyledFrom true s
    else c :: unstyledFrom false s

def unstyled (s : Text) : Text := unstyledFrom false s

@[simp] theorem unstyled_nil : unstyled [] = [] := rfl

theorem unstyled_cons {c : Char} (s : Text) (hc : c ≠ '\x1b') :
    unstyled (c :: s) = c :: unstyled s := by
  simp [unstyled, unstyledFrom, hc]

/-- Text without an escape character is kept. -/
theorem unstyled_append {s : Text} (hs : '\x1b' ∉ s) (t : Text) :
    unstyled (s ++ t) = s ++ unstyled t := by
  induction s with
  | nil => rfl
  | cons c s ih =>
      obtain ⟨hc, hs⟩ := List.ne_and_not_mem_of_not_mem_cons hs
      rw [List.cons_append, unstyled_cons _ hc.symm, ih hs, List.cons_append]

/-- A sequence goes up to the first `m`. -/
theorem unstyledFrom_true_append {codes : Text} (hm : 'm' ∉ codes) (t : Text) :
    unstyledFrom true (codes ++ 'm' :: t) = unstyled t := by
  induction codes with
  | nil => simp [unstyledFrom, unstyled]
  | cons c codes ih =>
      obtain ⟨hc, hm⟩ := List.ne_and_not_mem_of_not_mem_cons hm
      have hne : (c != 'm') = true := bne_iff_ne.mpr hc.symm
      rw [List.cons_append, unstyledFrom, hne, ih hm]

theorem unstyled_sequence {codes : Text} (hm : 'm' ∉ codes) (t : Text) :
    unstyled ('\x1b' :: '[' :: (codes ++ 'm' :: t)) = unstyled t := by
  have hend : 'm' ∈ '[' :: (codes ++ 'm' :: t) := by simp
  have hbracket : 'm' ∉ '[' :: codes := by simp [hm]
  rw [unstyled, unstyledFrom, if_pos ⟨rfl, rfl, hend⟩]
  exact unstyledFrom_true_append hbracket t

/-! ## One painted piece -/

theorem Style.not_mem_codes (style : Style) : 'm' ∉ style.codes := by
  cases style <;> decide

theorem unstyled_opening (style : Style) (t : Text) :
    unstyled (style.opening ++ t) = unstyled t := by
  have h := unstyled_sequence style.not_mem_codes t
  simpa [Style.opening] using h

theorem unstyled_endOfStyle (t : Text) : unstyled (endOfStyle ++ t) = unstyled t := by
  have hm : 'm' ∉ ['0'] := by decide
  exact unstyled_sequence hm t

/-- A style has to be opened again only behind an escape character. -/
theorem reopen_of_not_mem {s : Text} (hs : '\x1b' ∉ s) (opening : Text) :
    reopen opening s = s := by
  induction s with
  | nil => rfl
  | cons c s ih =>
      obtain ⟨hc, hs⟩ := List.ne_and_not_mem_of_not_mem_cons hs
      rw [reopen, ih hs]
      intro t hesc
      exact (hc hesc.symm).elim

theorem unstyled_paint {s : Text} (hs : '\x1b' ∉ s) (colored : Bool) (style : Style) (t : Text) :
    unstyled (paint colored style s ++ t) = s ++ unstyled t := by
  cases colored with
  | false => exact unstyled_append hs t
  | true =>
      rw [paint, if_pos rfl, reopen_of_not_mem hs, List.append_assoc, List.append_assoc,
        unstyled_opening, unstyled_append hs, unstyled_endOfStyle]

/-! ## Painted texts -/

/-- How a plain text is shown: pieces of it are painted, each in a style, and the rest is copied. -/
inductive Painted (colored : Bool) : (plain shown : Text) → Prop where
  | nil : Painted colored [] []
  | copy {plain shown} (s : Text) :
      Painted colored plain shown → Painted colored (s ++ plain) (s ++ shown)
  | style {plain shown} (style : Style) (s : Text) :
      Painted colored plain shown → Painted colored (s ++ plain) (paint colored style s ++ shown)

namespace Painted

variable {colored : Bool}

theorem copied (s : Text) : Painted colored s s := by
  have h : Painted colored (s ++ []) (s ++ []) := nil.copy s
  rwa [List.append_nil] at h

theorem styled (style : Style) (s : Text) : Painted colored s (paint colored style s) := by
  have h : Painted colored (s ++ []) (paint colored style s ++ []) := nil.style style s
  rwa [List.append_nil, List.append_nil] at h

theorem append {plain shown plain' shown' : Text} (h : Painted colored plain shown)
    (h' : Painted colored plain' shown') : Painted colored (plain ++ plain') (shown ++ shown') := by
  induction h with
  | nil => exact h'
  | copy s _ ih =>
      rw [List.append_assoc, List.append_assoc]
      exact ih.copy s
  | style style s _ ih =>
      rw [List.append_assoc, List.append_assoc]
      exact ih.style style s

theorem eq_plain {plain shown : Text} (h : Painted false plain shown) : shown = plain := by
  induction h with
  | nil => rfl
  | copy s _ ih => rw [ih]
  | style style s _ ih =>
      rw [ih]
      rfl

theorem unstyled_eq {plain shown : Text} (h : Painted colored plain shown)
    (hesc : '\x1b' ∉ plain) : unstyled shown = plain := by
  induction h with
  | nil => rfl
  | copy s _ ih =>
      simp only [List.mem_append, not_or] at hesc
      rw [unstyled_append hesc.1, ih hesc.2]
  | style style s _ ih =>
      simp only [List.mem_append, not_or] at hesc
      rw [unstyled_paint hesc.1, ih hesc.2]

end Painted

end LogFilter
