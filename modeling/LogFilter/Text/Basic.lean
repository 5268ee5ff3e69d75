/-!
# Text

Text is a list of Unicode characters. Positions in a text count the bytes of its UTF-8 form.
-/

namespace LogFilter

abbrev Text := List Char

scoped instance : Coe String Text := ⟨String.toList⟩

/-- Number of bytes of the UTF-8 form. -/
def byteLength : Text → Nat
  | [] => 0
  | c :: s => c.utf8Size + byteLength s

@[simp] theorem byteLength_nil : byteLength [] = 0 := rfl

@[simp] theorem byteLength_cons (c : Char) (s : Text) :
    byteLength (c :: s) = c.utf8Size + byteLength s := rfl

@[simp] theorem byteLength_append (s t : Text) :
    byteLength (s ++ t) = byteLength s + byteLength t := by
  induction s with
  | nil => simp
  | cons c s ih => simp [ih, Nat.add_assoc]

theorem byteLength_eq_zero {s : Text} : byteLength s = 0 ↔ s = [] := by
  cases s with
  | nil => simp
  | cons c s => simp [Nat.ne_of_gt c.utf8Size_pos]

theorem byteLength_pos {s : Text} (h : s ≠ []) : 0 < byteLength s :=
  Nat.pos_of_ne_zero fun hzero => h (byteLength_eq_zero.mp hzero)

theorem length_le_byteLength (s : Text) : s.length ≤ byteLength s := by
  induction s with
  | nil => exact Nat.le_refl 0
  | cons c s ih =>
      have hc := c.utf8Size_pos
      simp only [List.length_cons, byteLength_cons]
      omega

namespace Text

/-- Cuts a text after its first `n` bytes; there is no such cut inside a character or past the
end. -/
def splitBytes? : Nat → Text → Option (Text × Text)
  | 0, s => some ([], s)
  | _ + 1, [] => none
  | n + 1, c :: s =>
    if c.utf8Size ≤ n + 1 then
      (splitBytes? (n + 1 - c.utf8Size) s).map fun (a, b) => (c :: a, b)
    else none

theorem splitBytes?_eq_some {n : Nat} {s a b : Text} :
    splitBytes? n s = some (a, b) ↔ s = a ++ b ∧ byteLength a = n := by
  induction s generalizing n a b with
  | nil => cases n <;> cases a <;> simp [splitBytes?, eq_comm, Nat.ne_of_gt (Char.utf8Size_pos _)]
  | cons c s ih =>
    have hc := c.utf8Size_pos
    cases n with
    | zero =>
      simp only [splitBytes?, Option.some.injEq, Prod.mk.injEq, byteLength_eq_zero]
      constructor
      · rintro ⟨rfl, rfl⟩
        simp
      · rintro ⟨h, rfl⟩
        simpa using h
    | succ n =>
      simp only [splitBytes?]
      split
      · next hle =>
        constructor
        · intro h
          obtain ⟨⟨x, y⟩, hxy, heq⟩ := Option.map_eq_some_iff.1 h
          simp only [Prod.mk.injEq] at heq
          obtain ⟨rfl, rfl⟩ := heq
          obtain ⟨rfl, hlen⟩ := ih.1 hxy
          exact ⟨rfl, by simp only [byteLength_cons]; omega⟩
        · rintro ⟨h, hlen⟩
          cases a with
          | nil => simp at hlen
          | cons d a =>
            simp only [List.cons_append, List.cons.injEq] at h
            obtain ⟨rfl, rfl⟩ := h
            simp only [byteLength_cons] at hlen
            exact Option.map_eq_some_iff.2 ⟨(a, b), ih.2 ⟨rfl, by omega⟩, rfl⟩
      · next hgt =>
        constructor
        · intro h
          cases h
        · rintro ⟨h, hlen⟩
          cases a with
          | nil => simp at hlen
          | cons d a =>
            simp only [List.cons_append, List.cons.injEq] at h
            simp only [byteLength_cons, ← h.1] at hlen
            omega

/-- What remains after a given beginning. -/
def dropStart? : Text → Text → Option Text
  | [], s => some s
  | _ :: _, [] => none
  | a :: start, c :: s => if a = c then dropStart? start s else none

theorem dropStart?_eq_some {start s rest : Text} :
    dropStart? start s = some rest ↔ s = start ++ rest := by
  induction start generalizing s with
  | nil => simp [dropStart?]
  | cons a start ih =>
    cases s with
    | nil => simp [dropStart?]
    | cons c s =>
      by_cases h : a = c
      · simp [dropStart?, h, ih]
      · simp [dropStart?, h, Ne.symm h]

/-- Splits at every occurrence of a character; the pieces are one more than its occurrences. -/
def splitAt (sep : Char) : Text → List Text
  | [] => [[]]
  | c :: s =>
    if c = sep then [] :: splitAt sep s
    else match splitAt sep s with
      | [] => [[c]]
      | piece :: pieces => (c :: piece) :: pieces

/-- The texts in order with `sep` between neighbours. -/
def join (sep : Text) (texts : List Text) : Text :=
  sep.intercalate texts

@[simp] theorem join_nil (sep : Text) : join sep [] = [] := rfl

@[simp] theorem join_singleton (sep s : Text) : join sep [s] = s := by
  simp [join]

theorem join_cons_cons (sep s t : Text) (texts : List Text) :
    join sep (s :: t :: texts) = s ++ sep ++ join sep (t :: texts) := by
  simp [join, List.intercalate]

/-- Decimal digits of a natural number. -/
def ofNat (n : Nat) : Text := Nat.toDigits 10 n

/-- Decimal digits of an integer after `-` where it is negative. -/
def ofInt : Int → Text
  | .ofNat n => ofNat n
  | .negSucc n => '-' :: ofNat (n + 1)

end Text

/-- Whether a code point lies in one of the inclusive ranges. -/
def inRanges (ranges : List (Nat × Nat)) (n : Nat) : Bool :=
  ranges.any fun r => r.1 ≤ n && n ≤ r.2

end LogFilter
