import LogFilter.Proofs.Query.Lexeme
import Mathlib.Data.List.Chain

/-!
# Texts in their places

A list of texts with offsets lies in a text if each of them stands there at its offset, and all
else is blanks. `Spread` says so from left to right; `Spread.spaced` says it by offsets alone.
-/

namespace LogFilter

namespace Text

/-- The text between two byte offsets. There is none if one of them is inside a character or past
the end, or if they are the wrong way round. -/
def slice? (s : Text) (start stop : Nat) : Option Text :=
  if start ≤ stop then do
    let (_, rest) ← splitBytes? start s
    let (own, _) ← splitBytes? (stop - start) rest
    some own
  else none

theorem slice?_eq_some_iff {s own : Text} {start stop : Nat} :
    s.slice? start stop = some own ↔
      ∃ before after, s = before ++ (own ++ after) ∧ byteLength before = start ∧
        start + byteLength own = stop := by
  unfold slice?
  constructor
  · intro h
    split at h
    · next hle =>
      simp only [Option.bind_eq_bind, Option.bind_eq_some_iff, Option.some.injEq] at h
      obtain ⟨⟨before, rest⟩, hcut, ⟨own', after⟩, hcut', hown⟩ := h
      obtain rfl : own' = own := hown
      obtain ⟨rfl, hbefore⟩ := splitBytes?_eq_some.mp hcut
      obtain ⟨rfl, hlen⟩ := splitBytes?_eq_some.mp hcut'
      exact ⟨before, after, rfl, hbefore, by omega⟩
    · cases h
  · rintro ⟨before, after, rfl, rfl, rfl⟩
    have hcut : splitBytes? (byteLength before) (before ++ (own ++ after)) =
        some (before, own ++ after) := splitBytes?_eq_some.mpr ⟨rfl, rfl⟩
    have hcut' : splitBytes? (byteLength before + byteLength own - byteLength before)
        (own ++ after) = some (own, after) := splitBytes?_eq_some.mpr ⟨rfl, by omega⟩
    rw [if_pos (Nat.le_add_right _ _), hcut]
    simp only [Option.bind_eq_bind, Option.bind_some, hcut']

theorem slice?_append (before own after : Text) :
    (before ++ (own ++ after)).slice? (byteLength before) (byteLength before + byteLength own) =
      some own :=
  slice?_eq_some_iff.mpr ⟨before, after, rfl, rfl, rfl⟩

theorem slice?_append_end (before own : Text) :
    (before ++ own).slice? (byteLength before) (byteLength (before ++ own)) = some own := by
  have h := slice?_append before own []
  rwa [List.append_nil, ← byteLength_append] at h

/-- A slice that begins in the second of two texts is a slice of that text. -/
theorem exists_of_slice?_append {front rest own : Text} {start stop : Nat}
    (h : (front ++ rest).slice? start stop = some own) (hle : byteLength front ≤ start) :
    ∃ gap after, rest = gap ++ (own ++ after) ∧ byteLength front + byteLength gap = start ∧
      start + byteLength own = stop := by
  obtain ⟨before, after, hs, rfl, hstop⟩ := slice?_eq_some_iff.mp h
  rcases List.append_eq_append_iff.mp hs with ⟨gap, rfl, hrest⟩ | ⟨gap, rfl, hrest⟩
  · exact ⟨gap, after, hrest, (byteLength_append _ _).symm, hstop⟩
  · have hgap : gap = [] := by
      rw [byteLength_append] at hle
      exact byteLength_eq_zero.mp (by omega)
    subst hgap
    exact ⟨[], after, hrest.symm, by simp, hstop⟩

/-- A slice is as long as its offsets are apart, and ends within the text. -/
theorem bounds_of_slice? {s own : Text} {start stop : Nat} (h : s.slice? start stop = some own) :
    start + byteLength own = stop ∧ stop ≤ byteLength s := by
  obtain ⟨before, after, rfl, hbefore, hstop⟩ := slice?_eq_some_iff.mp h
  refine ⟨hstop, ?_⟩
  simp only [byteLength_append]
  omega

end Text

/-- Whether only blanks stand between two offsets. -/
def GapBetween (s : Text) (start stop : Nat) : Prop :=
  ∃ gap, s.slice? start stop = some gap ∧ IsGap gap

/-- A text at an offset. -/
structure Spot where
  start : Nat
  own : Text

def Spot.stop (p : Spot) : Nat := p.start + byteLength p.own

/-- The texts stand in `s` at their offsets, blanks before, between and after them, and no two
of them touch. -/
structure Spaced (s : Text) (spots : List Spot) : Prop where
  own : ∀ p ∈ spots, s.slice? p.start p.stop = some p.own
  first : ∀ p ∈ spots.head?, GapBetween s 0 p.start
  apart : spots.IsChain fun p q => p.stop < q.start ∧ GapBetween s p.stop q.start
  last : ∀ p ∈ spots.getLast?, GapBetween s p.stop (byteLength s)

/-- Whether a text ends before another one begins, with something between them. -/
def Spot.Before (p q : Spot) : Prop := p.stop < q.start

instance : Trans Spot.Before Spot.Before Spot.Before where
  trans {p q r} hpq hqr := by
    have hq : q.start ≤ q.stop := Nat.le_add_right _ _
    exact Nat.lt_of_lt_of_le hpq (Nat.le_trans hq (Nat.le_of_lt hqr))

/-- Neighbours do not touch, and so no two of the texts do. -/
theorem Spaced.pairwise {s : Text} {spots : List Spot} (h : Spaced s spots) :
    spots.Pairwise Spot.Before := by
  have hchain : spots.IsChain Spot.Before := h.apart.imp fun _ _ hpq => hpq.1
  exact hchain.pairwise

/-- A text that begins at `offset` is blanks, then the first of the texts, and so on up to the
blanks at the end. -/
inductive Spread : Nat → Text → List Spot → Prop where
  | blanks {offset s} (hs : IsGap s) : Spread offset s []
  | spot {offset gap own rest spots} (hg : IsGap gap)
      (hlt : ∀ p ∈ spots.head?, offset + byteLength gap + byteLength own < p.start) :
      Spread (offset + byteLength gap + byteLength own) rest spots →
      Spread offset (gap ++ (own ++ rest)) (⟨offset + byteLength gap, own⟩ :: spots)

/-! ## From left to right and by offsets

Slices count from the front of the whole text, so the lemmas keep what stands before `offset` as
`before`. -/

/-- Blanks stand from `offset` to the first of the texts. -/
theorem Spread.gap_head {offset : Nat} {s : Text} {spots : List Spot} (h : Spread offset s spots)
    (before : Text) (hb : byteLength before = offset) :
    ∀ p ∈ spots.head?, GapBetween (before ++ s) offset p.start := by
  cases h with
  | blanks => simp
  | @spot _ gap own rest spots hg =>
      intro p hp
      obtain rfl : _ = p := Option.some.inj hp
      subst hb
      exact ⟨gap, Text.slice?_append before gap (own ++ rest), hg⟩

theorem Spread.spaced_behind {offset : Nat} {s : Text} {spots : List Spot}
    (h : Spread offset s spots) (before : Text) (hb : byteLength before = offset) :
    (∀ p ∈ spots, (before ++ s).slice? p.start p.stop = some p.own) ∧
      (spots.IsChain fun p q => p.stop < q.start ∧ GapBetween (before ++ s) p.stop q.start) ∧
      ∀ p ∈ spots.getLast?, GapBetween (before ++ s) p.stop (byteLength (before ++ s)) := by
  induction h generalizing before with
  | blanks => simp
  | @spot offset gap own rest spots hg hlt hrest ih =>
      subst hb
      have hlen : byteLength (before ++ gap ++ own) =
          byteLength before + byteLength gap + byteLength own := by
        simp only [byteLength_append]
      have hassoc : before ++ (gap ++ (own ++ rest)) = before ++ gap ++ own ++ rest := by
        simp only [List.append_assoc]
      obtain ⟨hown, hchain, hlast⟩ := ih _ hlen
      have hhead := hrest.gap_head _ hlen
      rw [hassoc]
      refine ⟨?_, ?_, ?_⟩
      · intro p hp
        rcases List.mem_cons.mp hp with rfl | hp
        · have hslice := Text.slice?_append (before ++ gap) own rest
          rwa [byteLength_append, ← List.append_assoc] at hslice
        · exact hown p hp
      · rw [List.isChain_cons]
        exact ⟨fun p hp => ⟨hlt p hp, hhead p hp⟩, hchain⟩
      · cases spots with
        | nil =>
            -- the last text, so that what is left is the blanks at the end
            cases hrest with
            | blanks hs =>
                intro p hp
                obtain rfl : _ = p := Option.some.inj hp
                refine ⟨rest, ?_, hs⟩
                have hslice := Text.slice?_append_end (before ++ gap ++ own) rest
                rwa [hlen] at hslice
        | cons q spots => simpa using hlast

theorem Spread.spaced {s : Text} {spots : List Spot} (h : Spread 0 s spots) :
    Spaced s spots := by
  obtain ⟨hown, hapart, hlast⟩ := h.spaced_behind [] rfl
  exact ⟨hown, h.gap_head [] rfl, hapart, hlast⟩

end LogFilter
