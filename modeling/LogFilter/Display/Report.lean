import LogFilter.Display.Paint
import LogFilter.Query.Problem

/-!
# Report of a check

One line for the verdict and one for each problem.
-/

namespace LogFilter

/-- Counts things in words: `1 problem`, `2 problems`. -/
def counted (n : Nat) (noun : Text) : Text :=
  Text.ofNat n ++ " " ++ noun ++ (if n = 1 then "" else "s")

/-- The line of one problem. -/
def Problem.line (p : Problem) : Text :=
  "  - " ++ p.message ++ "\n"

def report (colored : Bool) (problems : List Problem) : Text :=
  if problems.isEmpty then paint colored .green "Query is valid." ++ "\n"
  else
    paint colored .boldRed ("Query is invalid: " ++ counted problems.length "problem") ++ "\n" ++
      problems.flatMap Problem.line

end LogFilter
