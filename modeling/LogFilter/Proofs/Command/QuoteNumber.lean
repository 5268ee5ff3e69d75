import LogFilter.Proofs.Command.Pipeline
import LogFilter.Proofs.Decimal.Integers

/-!
# Quoting integers

`quote --number` takes every decimal integer. An integer of 64 bits is written in its canonical
form. For a greater one the nearest floating point number is written, and so another integer may
stand for it; integers past all floating point numbers are infinite.
-/

namespace LogFilter

variable {environment : Option Text} {args : List Text} {s : Surroundings} {d : Text} {z : Int}

theorem IsInteger.readNumber_eq (h : IsInteger d z) :
    Scalar.readNumber d =
      .ok (if -2 ^ 63 ≤ z ∧ z < 2 ^ 63 then .integer z
        else .float (.ofDecimal (z < 0) z.natAbs 0)) := by
  by_cases hrange : -2 ^ 63 ≤ z ∧ z < 2 ^ 63
  · rw [Scalar.readNumber, h.readInteger?_eq, if_pos hrange, if_pos hrange]
  · have hz : z ≠ 0 := by omega
    rw [Scalar.readNumber, h.readInteger?_eq, if_neg hrange, if_neg hrange]
    simp only [h.readFloat_eq hz]
    rfl

theorem Performs.run_quote_number {scalar : Scalar}
    (h : Performs environment args s (.quote d true) .text)
    (hscalar : Scalar.readNumber d = .ok scalar) :
    (run environment args s).exitCode = 0 ∧
      (run environment args s).output = scalar.quoted ++ "\n" := by
  have hanswer : ∀ colored, (Command.quote d true).answer s .text colored =
      .ok ⟨scalar.quoted ++ "\n", none, true⟩ := fun _ => by
    rw [Command.answer, if_pos rfl, hscalar]
    rfl
  exact h.results hanswer

/-- Each decimal integer is taken, and one line is written for it: the integer itself, if it has 64
bits. Else the nearest floating point number is read, and the line is an integer that is read as the
same number; it is the integer itself, if that has no more than fifteen digits before its zeros. -/
theorem quote_number_of_integer (hd : IsInteger d z)
    (h : Performs environment args s (.quote d true) .text) :
    (run environment args s).exitCode = 0 ∧
      ∃ line, (run environment args s).output = line ++ "\n" ∧
        (-2 ^ 63 ≤ z ∧ z < 2 ^ 63 → line = Text.ofInt z) ∧
        (¬ (-2 ^ 63 ≤ z ∧ z < 2 ^ 63) → z.natAbs < 2 ^ 1024 - 2 ^ 970 →
          ∃ w, line = Text.ofInt w ∧ StandsFor w z ∧
            ∀ v : Int, ∀ k : Nat, z = v * 10 ^ k → v.natAbs < 10 ^ 15 → w = z) ∧
        (2 ^ 1024 - 2 ^ 970 ≤ z.natAbs → line = signText (z < 0) ++ "inf") := by
  obtain ⟨hexit, houtput⟩ := h.run_quote_number hd.readNumber_eq
  refine ⟨hexit, _, houtput, fun hrange => ?_, fun hrange hfinite => ?_, fun hpast => ?_⟩
  · rw [if_pos hrange]
    rfl
  · obtain ⟨w, htext, hstands⟩ := exists_standsFor (z := z) (by omega) hfinite
    rw [if_neg hrange]
    exact ⟨w, htext, hstands, fun v k hz hv => hstands.eq_of_lt hz hv⟩
  · have hrange : ¬ (-2 ^ 63 ≤ z ∧ z < 2 ^ 63) := by
      have hlarge := (pow_le_pastFinite (k := 63) (by decide)).trans hpast
      omega
    rw [if_neg hrange, ofDecimal_past hpast]
    rfl

/-- Of two integers past 64 bits, the one with few digits before its zeros is kept. -/
theorem quote_number_of_integer_past :
    let s : Surroundings := ⟨fun _ => .error .notFound, .empty, false⟩
    (∃ w, (run none ["quote", "-n", "--", "-9223372036854775809"] s).output =
        Text.ofInt w ++ "\n" ∧ StandsFor w (-9223372036854775809)) ∧
      (run none ["quote", "-n", "+0012300000000000000000000"] s).output =
        Text.ofInt 12300000000000000000000 ++ "\n" := by
  intro s
  have hfinite {n : Nat} (hn : n < 2 ^ 100) : n < 2 ^ 1024 - 2 ^ 970 :=
    hn.trans_le (pow_le_pastFinite (by decide))
  have hminus : IsInteger "-9223372036854775809" (-9223372036854775809) :=
    have hdigits : IsDigits "9223372036854775809" := isDigits_iff.mpr (by decide)
    .minus hdigits
  have hplus : IsInteger "+0012300000000000000000000" 12300000000000000000000 :=
    have hdigits : IsDigits "0012300000000000000000000" := isDigits_iff.mpr (by decide)
    .plus hdigits
  constructor
  · have hruns : Performs none ["quote", "-n", "--", "-9223372036854775809"] s
        (.quote "-9223372036854775809" true) .text :=
      ⟨⟨.quote "-9223372036854775809" true, none, none, .auto, false, 0⟩, _, rfl, rfl, rfl, rfl⟩
    obtain ⟨-, line, houtput, -, hpast, -⟩ := quote_number_of_integer hminus hruns
    obtain ⟨w, rfl, hstands, -⟩ := hpast (by decide) (hfinite (by decide))
    exact ⟨w, houtput, hstands⟩
  · have hruns : Performs none ["quote", "-n", "+0012300000000000000000000"] s
        (.quote "+0012300000000000000000000" true) .text :=
      ⟨⟨.quote "+0012300000000000000000000" true, none, none, .auto, false, 0⟩, _, rfl, rfl, rfl,
        rfl⟩
    obtain ⟨-, line, houtput, -, hpast, -⟩ := quote_number_of_integer hplus hruns
    obtain ⟨w, rfl, -, hkept⟩ := hpast (by decide) (hfinite (by decide))
    rw [houtput, hkept 123 20 (by decide) (by decide)]

/-- The first integer past 64 bits is not kept. -/
theorem quote_number_rounds :
    let s : Surroundings := ⟨fun _ => .error .notFound, .empty, false⟩
    let args : List Text := ["quote", "--number", "9223372036854775808"]
    IsInteger "9223372036854775808" 9223372036854775808 ∧
      Performs none args s (.quote "9223372036854775808" true) .text ∧
      (run none args s).output = "9223372036854776000\n" ∧
      (run none args s).output ≠ Text.ofInt 9223372036854775808 ++ "\n" := by
  intro s args
  have houtput : (run none args s).output = "9223372036854776000\n" := by decide +kernel
  have hdigits : IsDigits "9223372036854775808" := isDigits_iff.mpr (by decide)
  refine ⟨.bare hdigits,
    ⟨⟨.quote "9223372036854775808" true, none, none, .auto, false, 0⟩, _, rfl, rfl, rfl, rfl⟩,
    houtput, ?_⟩
  rw [houtput]
  decide +kernel

end LogFilter
