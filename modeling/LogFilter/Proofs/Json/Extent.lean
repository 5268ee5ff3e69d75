import LogFilter.Proofs.Json.Objects
import LogFilter.Proofs.Json.Skipping

/-!
# How far the readers read

What is read as a clause, or as a part of one, may be passed over as a value as well, and both end
at the same place. So a reader that takes a JSON value takes all of it, and nothing behind it.
-/

namespace LogFilter.Json

variable {s t u v g rest : Text} {b : Bracket} {first : Bool} {c : Clause} {d d' : Draft}

/-! ### Values inside others -/

/-- What a step leads to where other brackets stand around those that it knows of. -/
def Progress.inside (outer : List Bracket) : Progress → Except Fault Progress
  | .done rest => afterValue outer rest
  | .value opened rest => .ok (.value (opened ++ outer) rest)

theorem afterValue_append (opened outer : List Bracket) (s : Text) :
    afterValue (opened ++ outer) s = (afterValue opened s).bind (Progress.inside outer) := by
  induction opened generalizing s with
  | nil => rfl
  | cons b opened ih =>
      rw [List.cons_append, afterValue, afterValue]
      split
      · rfl
      · next c s _ =>
        split
        · cases b.skipLead s <;> rfl
        · split
          · exact ih s
          · rfl

theorem afterOpening_append (b : Bracket) (opened outer : List Bracket) (s : Text) :
    afterOpening b (opened ++ outer) s =
      (afterOpening b opened s).bind (Progress.inside outer) := by
  rw [afterOpening, afterOpening]
  split
  · rfl
  · next c s _ =>
    split
    · exact afterValue_append opened outer s
    · cases b.skipLead (c :: s) <;> rfl

theorem skipOne_append (opened outer : List Bracket) (s : Text) :
    skipOne (opened ++ outer) s = (skipOne opened s).bind (Progress.inside outer) := by
  have hbind {x : Except Fault Text} : x.bind (afterValue (opened ++ outer)) =
      (x.bind (afterValue opened)).bind (Progress.inside outer) := by
    cases x with
    | error fault => rfl
    | ok s => exact afterValue_append opened outer s
  unfold skipOne
  split
  · rfl
  · exact hbind
  · exact hbind
  · exact hbind
  · exact hbind
  · exact afterOpening_append .list opened outer _
  · exact afterOpening_append .object opened outer _
  · next c s _ _ _ _ _ _ _ =>
    split
    · cases scanNumber .malformed (c :: s) with
      | error fault => rfl
      | ok found => exact afterValue_append opened outer found.2
    · rfl

/-- One value is passed over up to `rest`, whatever brackets stand around it. -/
def PassesTo (s rest : Text) : Prop :=
  ∀ opened, ∃ k, ∀ steps, skipValues (steps + k) opened s = goOn steps (afterValue opened rest)

theorem PassesTo.unique (h : PassesTo s u) (h' : PassesTo s v) : u = v := by
  obtain ⟨k, hk⟩ := h []
  obtain ⟨k', hk'⟩ := h' []
  -- with as many steps as both need, the value is passed over to both ends
  have heq : goOn k' (afterValue [] u) = goOn k (afterValue [] v) := by
    rw [← hk k', ← hk' k, Nat.add_comm]
  exact Except.ok.inj heq

theorem IsJsonValue.passesTo (h : IsJsonValue t) (hg : IsJsonGap g) (hrest : EndsNumber rest) :
    PassesTo (g ++ (t ++ rest)) rest := by
  intro opened
  obtain ⟨k, -, hk⟩ := passed_of_isPart h g opened rest hg hrest
  exact ⟨k + 1, hk⟩

theorem passesTo_of_skipOne (h : skipOne [] s = .ok (.done rest)) : PassesTo s rest := by
  intro opened
  refine ⟨1, fun steps => ?_⟩
  rw [skipValues_succ, ← List.nil_append opened, skipOne_append, h]
  rfl

theorem passesTo_of_skipValues {steps : Nat} {opened : List Bracket}
    (h : skipValues steps opened s = .ok rest) (outer : List Bracket) :
    ∃ k, ∀ steps, skipValues (steps + k) (opened ++ outer) s =
      goOn steps (afterValue outer rest) := by
  induction steps generalizing opened s with
  | zero => cases h
  | succ steps ih =>
      rw [skipValues_succ] at h
      cases hstep : skipOne opened s with
      | error fault =>
          rw [hstep] at h
          cases h
      | ok progress =>
          rw [hstep] at h
          have hinside := skipOne_append opened outer s
          rw [hstep] at hinside
          cases progress with
          | done left =>
              obtain rfl : left = rest := Except.ok.inj h
              refine ⟨1, fun steps => ?_⟩
              rw [skipValues_succ, hinside]
              rfl
          | value opened' left =>
              obtain ⟨k, hk⟩ := ih h
              refine ⟨k + 1, fun steps => ?_⟩
              rw [← Nat.add_assoc, skipValues_succ, hinside]
              exact hk steps

theorem passesTo_of_skipValue (h : skipValue s = .ok rest) : PassesTo s rest :=
  fun outer => passesTo_of_skipValues h outer

/-! ### Texts, offsets and operators -/

theorem skipOne_skipBlanks (opened : List Bracket) (s : Text) :
    skipOne opened (skipBlanks s) = skipOne opened s := by
  rw [skipOne, skipBlanks_skipBlanks]
  rfl

theorem readText_eq_ok {expected : Expected} {a : Text}
    (h : readText expected s = .ok (a, rest)) :
    ∃ u, skipBlanks s = '"' :: u ∧ scanString u = .ok (a, rest) := by
  unfold readText at h
  split at h
  · cases h
  · next u hs => exact ⟨u, hs, h⟩
  · cases h

theorem passesTo_of_readText {expected : Expected} {a : Text}
    (h : readText expected s = .ok (a, rest)) : PassesTo s rest := by
  obtain ⟨u, hs, hscan⟩ := readText_eq_ok h
  refine passesTo_of_skipOne ?_
  rw [skipOne, hs]
  change (skipString u).bind _ = _
  rw [skipString_of_scanString hscan]
  rfl

theorem passesTo_of_readNull (h : readNull s = .ok rest) : PassesTo s rest := by
  unfold readNull at h
  split at h
  · cases h
  · next u hs =>
    refine passesTo_of_skipOne ?_
    rw [skipOne, hs]
    change (skipWord "ull" u).bind _ = _
    rw [h]
    rfl
  · cases h

section Numbers

variable {atEnd : Fault} (atEnd' : Fault)

theorem scanDigits_of_atEnd {r : Text × Text} (h : scanDigits atEnd s = .ok r) :
    scanDigits atEnd' s = .ok r := by
  cases s with
  | nil => cases h
  | cons c s => exact h

theorem scanWhole_of_atEnd {r : Text × Text} (h : scanWhole atEnd s = .ok r) :
    scanWhole atEnd' s = .ok r := by
  unfold scanWhole at h ⊢
  split at h
  · exact h
  · exact scanDigits_of_atEnd atEnd' h

theorem scanFraction_of_atEnd {r : Text × Text} (h : scanFraction atEnd s = .ok r) :
    scanFraction atEnd' s = .ok r := by
  unfold scanFraction at h ⊢
  split at h
  · exact scanDigits_of_atEnd atEnd' h
  · exact h

theorem scanExponent_of_atEnd {r : Option Int × Text} (h : scanExponent atEnd s = .ok r) :
    scanExponent atEnd' s = .ok r := by
  cases s with
  | nil => exact h
  | cons c s =>
      rw [scanExponent] at h ⊢
      split at h
      · next he =>
        obtain ⟨digits, hdigits, heq⟩ := bind_eq_ok_iff.mp h
        rw [if_pos he, scanDigits_of_atEnd atEnd' hdigits]
        exact heq
      · next he => rwa [if_neg he]

/-- A number that is read is the same whatever fault it had if it ended too early. -/
theorem scanNumber_of_atEnd {r : NumberText × Text} (h : scanNumber atEnd s = .ok r) :
    scanNumber atEnd' s = .ok r := by
  unfold scanNumber at h ⊢
  obtain ⟨whole, hwhole, h⟩ := bind_eq_ok_iff.mp h
  obtain ⟨fraction, hfraction, h⟩ := bind_eq_ok_iff.mp h
  obtain ⟨exponent, hexponent, h⟩ := bind_eq_ok_iff.mp h
  simp only [scanWhole_of_atEnd atEnd' hwhole, scanFraction_of_atEnd atEnd' hfraction,
    scanExponent_of_atEnd atEnd' hexponent, ok_bind]
  exact h

end Numbers

theorem passesTo_of_readOffset {n : Nat} (h : readOffset s = .ok (n, rest)) :
    PassesTo s rest := by
  unfold readOffset at h
  split at h
  · cases h
  · next c u hs =>
    split at h
    · next hc =>
      split at h
      · cases h
      · next left hread =>
        obtain ⟨-, rfl⟩ := Prod.mk.inj (Except.ok.inj h)
        obtain ⟨⟨number, left⟩, hscan, h⟩ := bind_eq_ok_iff.mp hread
        refine passesTo_of_skipOne ?_
        rw [← skipOne_skipBlanks, hs, skipOne_number hc, scanNumber_of_atEnd .malformed hscan]
        simp only at h
        split at h
        · obtain ⟨-, rfl⟩ := Prod.mk.inj (Except.ok.inj h)
          rfl
        · cases h
      · cases h
      · cases h
    · cases h

/-! ### Lists and objects -/

/-- Goes on inside brackets: behind the opening one, or behind a value. -/
def resume (b : Bracket) (first : Bool) (opened : List Bracket) (s : Text) :
    Except Fault Progress :=
  if first then afterOpening b opened s else afterValue (b :: opened) s

/-- The values up to the closing bracket are passed over, and so is the bracket. -/
def ClosesTo (b : Bracket) (first : Bool) (s rest : Text) : Prop :=
  ∀ opened, ∃ k, ∀ steps,
    goOn (steps + k) (resume b first opened s) = goOn steps (afterValue opened rest)

theorem skipMark_eq_ok {mark : Char} (h : skipMark mark s = .ok rest) :
    skipBlanks s = mark :: rest := by
  unfold skipMark at h
  split at h
  · cases h
  · next c u hs =>
    split at h
    · next hc => rw [hs, hc, Except.ok.inj h]
    · cases h

theorem closesTo_end (first : Bool) (h : skipMark b.close s = .ok rest) :
    ClosesTo b first s rest := by
  intro opened
  refine ⟨0, fun steps => ?_⟩
  have hresume : resume b first opened s = afterValue opened rest := by
    cases first with
    | true =>
        change afterOpening b opened s = _
        rw [afterOpening, skipMark_eq_ok h]
        exact if_pos rfl
    | false =>
        change afterValue (b :: opened) s = _
        rw [afterValue, skipMark_eq_ok h]
        cases b <;> rfl
  rw [hresume]
  rfl

theorem closesTo_value
    (h : ∀ opened, resume b first opened s = .ok (.value (b :: opened) u)) (hu : PassesTo u v)
    (hv : ClosesTo b false v rest) : ClosesTo b first s rest := by
  intro opened
  obtain ⟨k, hk⟩ := hu (b :: opened)
  obtain ⟨k', hk'⟩ := hv opened
  refine ⟨k' + k, fun steps => ?_⟩
  rw [h, goOn_value, ← Nat.add_assoc, hk]
  exact hk' steps

theorem PassesTo.of_skipBlanks (h : PassesTo (skipBlanks s) rest) : PassesTo s rest := by
  intro opened
  obtain ⟨k, hk⟩ := h opened
  refine ⟨k, fun steps => ?_⟩
  rw [← hk]
  cases steps + k with
  | zero => rfl
  | succ steps => rw [skipValues_succ, skipValues_succ, skipOne_skipBlanks]

theorem nextItem_first_eq_ok (h : nextItem true s = .ok (some u)) :
    ∃ c w, skipBlanks s = c :: w ∧ c ≠ ']' ∧ u = c :: w := by
  unfold nextItem at h
  split at h
  · cases h
  · cases h
  · next c w hclose hs => exact ⟨c, w, hs, hclose, (Option.some.inj (Except.ok.inj h)).symm⟩

theorem nextItem_later_eq_ok (h : nextItem false s = .ok (some u)) :
    ∃ w, skipBlanks s = ',' :: w ∧ skipBlanks w = u := by
  unfold nextItem at h
  split at h
  · cases h
  · cases h
  · next c w _ hs =>
    change (if c = ',' then _ else _) = _ at h
    split at h
    · next hcomma =>
      refine ⟨w, by rw [hs, hcomma], ?_⟩
      split at h
      · cases h
      · cases h
      · exact Option.some.inj (Except.ok.inj h)
    · cases h

theorem nextField_first_eq_ok (h : nextField true s = .ok (some u)) :
    skipBlanks s = '"' :: u := by
  unfold nextField at h
  split at h
  · cases h
  · cases h
  · next c w _ hs =>
    change (if c = '"' then _ else _) = _ at h
    split at h
    · next hquote => rw [hs, hquote, Option.some.inj (Except.ok.inj h)]
    · cases h

theorem nextField_later_eq_ok (h : nextField false s = .ok (some u)) :
    ∃ w, skipBlanks s = ',' :: w ∧ skipMark '"' w = .ok u := by
  unfold nextField at h
  split at h
  · cases h
  · cases h
  · next c w _ hs =>
    change (if c = ',' then _ else _) = _ at h
    split at h
    · next hcomma =>
      obtain ⟨u', hquote, heq⟩ := map_eq_ok_iff.mp h
      exact ⟨w, by rw [hs, hcomma], by rw [hquote, Option.some.inj heq]⟩
    · cases h

theorem resume_first {c : Char} (hs : skipBlanks s = c :: u) (hc : c ≠ b.close)
    (opened : List Bracket) :
    resume b true opened s = (b.skipLead (c :: u)).map (.value (b :: opened)) := by
  change afterOpening b opened s = _
  rw [afterOpening_items hs hc, hs]

theorem resume_later (hs : skipBlanks s = ',' :: u) (opened : List Bracket) :
    resume b false opened s = (b.skipLead u).map (.value (b :: opened)) := by
  change afterValue (b :: opened) s = _
  rw [afterValue, hs]
  exact if_pos rfl

theorem closesTo_item (h : nextItem first s = .ok (some u)) (hu : PassesTo u v)
    (hv : ClosesTo .list false v rest) : ClosesTo .list first s rest := by
  cases first with
  | true =>
      obtain ⟨c, w, hs, hclose, rfl⟩ := nextItem_first_eq_ok h
      exact closesTo_value (fun opened => resume_first (b := .list) hs hclose opened) hu hv
  | false =>
      obtain ⟨w, hs, rfl⟩ := nextItem_later_eq_ok h
      exact closesTo_value (fun opened => resume_later hs opened) hu.of_skipBlanks hv

theorem closesTo_member {name x y : Text} (h : nextField first s = .ok (some u))
    (hname : scanString u = .ok (name, x)) (hcolon : skipMark ':' x = .ok y)
    (hy : PassesTo y v) (hv : ClosesTo .object false v rest) : ClosesTo .object first s rest := by
  have hlead {w : Text} (hw : skipMark '"' w = .ok u) : Bracket.object.skipLead w = .ok y := by
    rw [Bracket.skipLead, hw, ok_bind, skipString_of_scanString hname, ok_bind, hcolon]
  cases first with
  | true =>
      have hs := nextField_first_eq_ok h
      have hquote : skipMark '"' ('"' :: u) = .ok u := skipMark_gap isJsonGap_nil (by decide) u
      refine closesTo_value (fun opened => ?_) hy hv
      rw [resume_first hs (by decide), hlead hquote, map_ok]
  | false =>
      obtain ⟨w, hs, hquote⟩ := nextField_later_eq_ok h
      refine closesTo_value (fun opened => ?_) hy hv
      rw [resume_later hs, hlead hquote, map_ok]

theorem passesTo_of_closesTo (hs : skipBlanks s = b.opening :: u) (h : ClosesTo b true u rest) :
    PassesTo s rest := by
  intro opened
  obtain ⟨k, hk⟩ := h opened
  refine ⟨k + 1, fun steps => ?_⟩
  rw [← Nat.add_assoc, skipValues_succ, ← skipOne_skipBlanks, hs, skipOne_opening]
  exact hk steps

theorem readOperatorName_eq_ok (h : readOperatorName s = .ok rest) :
    readText .operator s = .ok (equalsSign, rest) := by
  obtain ⟨⟨name, left⟩, hread, h⟩ := bind_eq_ok_iff.mp h
  simp only at h
  split at h
  · next hname => rw [hread, hname, Except.ok.inj h]
  · cases h

theorem passesTo_of_readOperator (h : readOperator s = .ok rest) : PassesTo s rest := by
  unfold readOperator at h
  split at h
  · cases h
  · next u hs =>
    have hname := passesTo_of_readText (readOperatorName_eq_ok h)
    rw [← hs] at hname
    exact hname.of_skipBlanks
  · next u hs =>
    obtain ⟨x, hname, h⟩ := bind_eq_ok_iff.mp h
    obtain ⟨y, hcolon, h⟩ := bind_eq_ok_iff.mp h
    obtain ⟨z, hnull, hend⟩ := bind_eq_ok_iff.mp h
    obtain ⟨w, hu, hscan⟩ := readText_eq_ok (readOperatorName_eq_ok hname)
    have hnext : nextField true u = .ok (some w) := by
      rw [nextField, hu]
      rfl
    have hclose : ClosesTo .object false z rest := closesTo_end false hend
    exact passesTo_of_closesTo (b := .object) hs
      (closesTo_member hnext hscan hcolon (passesTo_of_readNull hnull) hclose)
  · cases h

/-! ### Clauses -/

theorem passesTo_of_readField {f : Field} (h : d.readField f s = .ok (d', rest)) :
    PassesTo s rest := by
  cases f with
  | key =>
      obtain ⟨⟨a, left⟩, hread, heq⟩ := map_eq_ok_iff.mp h
      obtain ⟨-, rfl⟩ := Prod.mk.inj heq
      exact passesTo_of_readText hread
  | operator =>
      obtain ⟨left, hread, heq⟩ := map_eq_ok_iff.mp h
      obtain ⟨-, rfl⟩ := Prod.mk.inj heq
      exact passesTo_of_readOperator hread
  | value =>
      obtain ⟨⟨a, left⟩, hread, heq⟩ := map_eq_ok_iff.mp h
      obtain ⟨-, rfl⟩ := Prod.mk.inj heq
      exact passesTo_of_readText hread
  | offsetStart =>
      obtain ⟨⟨n, left⟩, hread, heq⟩ := map_eq_ok_iff.mp h
      obtain ⟨-, rfl⟩ := Prod.mk.inj heq
      exact passesTo_of_readOffset hread

theorem passesTo_of_readMember (h : readMember d s = .ok (d', rest)) :
    ∃ name x y, scanString s = .ok (name, x) ∧ skipMark ':' x = .ok y ∧ PassesTo y rest := by
  obtain ⟨⟨name, x⟩, hname, h⟩ := bind_eq_ok_iff.mp h
  refine ⟨name, x, ?_⟩
  simp only at h
  split at h
  · next f _ =>
    split at h
    · cases h
    · obtain ⟨y, hcolon, hread⟩ := bind_eq_ok_iff.mp h
      exact ⟨y, hname, hcolon, passesTo_of_readField hread⟩
  · obtain ⟨y, hcolon, h⟩ := bind_eq_ok_iff.mp h
    obtain ⟨left, hskip, heq⟩ := bind_eq_ok_iff.mp h
    obtain ⟨-, rfl⟩ := Prod.mk.inj (Except.ok.inj heq)
    exact ⟨y, hname, hcolon, passesTo_of_skipValue hskip⟩

theorem closesTo_of_readMembers {count : Nat} (h : readMembers count first d s = .ok (c, rest)) :
    ClosesTo .object first s rest := by
  induction count generalizing first d s with
  | zero => cases h
  | succ count ih =>
      obtain ⟨next, hnext, h⟩ := bind_eq_ok_iff.mp h
      cases next with
      | none =>
          obtain ⟨clause, -, h⟩ := bind_eq_ok_iff.mp h
          obtain ⟨left, hend, heq⟩ := bind_eq_ok_iff.mp h
          obtain ⟨-, rfl⟩ := Prod.mk.inj (Except.ok.inj heq)
          exact closesTo_end first hend
      | some u =>
          obtain ⟨⟨d', v⟩, hmember, h⟩ := bind_eq_ok_iff.mp h
          obtain ⟨name, x, y, hname, hcolon, hy⟩ := passesTo_of_readMember hmember
          exact closesTo_member hnext hname hcolon hy (ih h)

theorem item_eq_ok {index : Nat} (h : item index s = .ok u) :
    nextItem (index = 0) s = .ok (some u) := by
  obtain ⟨next, hnext, h⟩ := bind_eq_ok_iff.mp h
  cases next with
  | none => cases h
  | some u' => rw [hnext, Except.ok.inj h]

theorem closesTo_of_readClauseList (h : readClauseList s = .ok (c, rest)) :
    ClosesTo .list true s rest := by
  obtain ⟨_, hkeyItem, h⟩ := bind_eq_ok_iff.mp h
  obtain ⟨_, hkey, h⟩ := bind_eq_ok_iff.mp h
  obtain ⟨_, hoperatorItem, h⟩ := bind_eq_ok_iff.mp h
  obtain ⟨_, hoperator, h⟩ := bind_eq_ok_iff.mp h
  obtain ⟨_, hvalueItem, h⟩ := bind_eq_ok_iff.mp h
  obtain ⟨_, hvalue, h⟩ := bind_eq_ok_iff.mp h
  obtain ⟨_, hstartItem, h⟩ := bind_eq_ok_iff.mp h
  obtain ⟨_, hstart, h⟩ := bind_eq_ok_iff.mp h
  obtain ⟨left, hend, heq⟩ := bind_eq_ok_iff.mp h
  obtain ⟨-, rfl⟩ := Prod.mk.inj (Except.ok.inj heq)
  refine closesTo_item (item_eq_ok hkeyItem) (passesTo_of_readText hkey) ?_
  refine closesTo_item (item_eq_ok hoperatorItem) (passesTo_of_readOperator hoperator) ?_
  refine closesTo_item (item_eq_ok hvalueItem) (passesTo_of_readText hvalue) ?_
  refine closesTo_item (item_eq_ok hstartItem) (passesTo_of_readOffset hstart) ?_
  exact closesTo_end false hend

/-- What is read as a clause is passed over as a value. -/
theorem passesTo_of_readClause (h : readClause s = .ok (c, rest)) : PassesTo s rest := by
  unfold readClause at h
  split at h
  · cases h
  · next u hs => exact passesTo_of_closesTo (b := .list) hs (closesTo_of_readClauseList h)
  · next u hs => exact passesTo_of_closesTo (b := .object) hs (closesTo_of_readMembers h)
  · cases h

/-- A JSON value that is read as a clause is read whole. -/
theorem rest_eq_of_readClause (h : IsJsonValue t) (hg : IsJsonGap g) (hrest : EndsNumber rest)
    (hread : readClause (g ++ (t ++ rest)) = .ok (c, s)) : s = rest :=
  (passesTo_of_readClause hread).unique (h.passesTo hg hrest)

end LogFilter.Json
