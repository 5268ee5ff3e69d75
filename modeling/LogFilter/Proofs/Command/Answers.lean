import LogFilter.Proofs.Command.Scripts
import LogFilter.Proofs.Json.Scalars

/-!
# Answers

What a run comes to, if it does not fail, is the answer of its command: the warnings about the
clauses of the answer are written, and then the output of it. An answer depends on what the command
reads, on the format and on the colors.
-/

namespace LogFilter

/-- What a command answers. -/
structure Answer where
  output : Text
  /-- The clauses that can be warned about, where there are any. -/
  subject : Option (List Clause)
  /-- False where a checked query has problems. -/
  passed : Bool

namespace Answer

def warnings (p : Profile) (quiet : Bool) (a : Answer) : List Warning :=
  match a.subject with
  | some clauses => if quiet then [] else LogFilter.warnings p clauses
  | none => []

def writes (p : Profile) (quiet colored : Bool) (a : Answer) : List Write :=
  (a.warnings p quiet).map (fun w => ⟨.messages, w.report colored⟩) ++ [⟨.output, a.output⟩]

section

variable {p : Profile} {quiet colored passed : Bool} {output : Text} {clauses : List Clause}

@[simp] theorem writes_some : (⟨output, some clauses, passed⟩ : Answer).writes p quiet colored =
    (if quiet then [] else LogFilter.warnings p clauses).map
      (fun w => ⟨.messages, w.report colored⟩) ++ [⟨.output, output⟩] := rfl

@[simp] theorem writes_none :
    (⟨output, none, passed⟩ : Answer).writes p quiet colored = [⟨.output, output⟩] := rfl

end

theorem textOn_output_writes (p : Profile) (quiet colored : Bool) (a : Answer) :
    textOn .output (a.writes p quiet colored) = a.output := by
  simp [textOn, writes, List.filter_map, Function.comp_def]

end Answer

namespace Command

/-- Answers a command that is about a query. -/
def answerQuery (query : Text) (output : List Clause → Text) (passed : List Clause → Bool) :
    Answer :=
  ⟨output (LogFilter.parse query), some (LogFilter.parse query), passed (LogFilter.parse query)⟩

def answer (s : Surroundings) (format : OutputFormat) (colored : Bool) :
    Command → Except Failure Answer
  | .parse query =>
    .ok (answerQuery query
      (fun clauses => inFormat format (clauseTable clauses) (clausesToJson clauses))
      fun _ => true)
  | .stringify file => do
    let clauses ← readClausesFrom s file
    let text := editText clauses
    .ok ⟨inFormat format (text ++ "\n") (.object [("query", .text text)]), some clauses, true⟩
  | .server query =>
    .ok (answerQuery query
      (fun clauses => inFormat format (serverText clauses ++ "\n")
        (.object [("query", .text (serverText clauses)), ("valid", .bool (isValid clauses))]))
      fun _ => true)
  | .validate query =>
    .ok (answerQuery query
      (fun clauses => inFormat format (report colored (problems clauses))
        (.object [("errors", .list ((problems clauses).map Problem.toJson)),
          ("valid", .bool (problems clauses).isEmpty)]))
      fun clauses => (problems clauses).isEmpty)
  | .quote value number => do
    let scalar ← if number then (Scalar.readNumber value).mapError (.notANumber value)
      else .ok (.text value)
    let text := scalar.quoted
    .ok ⟨inFormat format (text ++ "\n") (.object [("value", .text text)]), none, true⟩
  | .highlight query =>
    .ok (answerQuery query (fun clauses => LogFilter.highlight colored query clauses ++ "\n")
      fun _ => true)

variable {s : Surroundings} {p : Profile} {format : OutputFormat} {quiet : Bool} {c : Console}
  {command : Command}

/-- A command with an answer warns about its clauses first and writes its output last. -/
theorem runOn_perform_of_answer {a : Answer} (h : command.answer s format c.colored = .ok a) :
    (command.perform s p format quiet).runOn c =
      (.ok a.passed, c.add (a.writes p quiet c.colored)) := by
  cases command with
  | parse query =>
      obtain rfl := Except.ok.inj h
      simp [perform, answerQuery]
  | stringify file =>
      obtain ⟨clauses, hread, ha⟩ := bind_eq_ok_iff.mp h
      obtain rfl := Except.ok.inj ha
      simp [perform, hread]
  | server query =>
      obtain rfl := Except.ok.inj h
      simp [perform, answerQuery]
  | validate query =>
      obtain rfl := Except.ok.inj h
      simp [perform, answerQuery]
  | quote value number =>
      cases number with
      | false =>
          obtain rfl := Except.ok.inj h
          simp [perform]
      | true =>
          rw [answer, if_pos rfl] at h
          obtain ⟨scalar, hread, ha⟩ := bind_eq_ok_iff.mp h
          obtain rfl := Except.ok.inj ha
          simp [perform, hread]
  | highlight query =>
      obtain rfl := Except.ok.inj h
      simp [perform, answerQuery]

theorem exists_runOn_perform_of_error {failure : Failure}
    (h : command.answer s format c.colored = .error failure) :
    ∃ next, (command.perform s p format quiet).runOn c = (.error failure, next) := by
  cases command with
  | parse query => cases h
  | server query => cases h
  | validate query => cases h
  | highlight query => cases h
  | stringify file =>
      have hread : readClausesFrom s file = .error failure := by
        simpa [answer, bind_eq_error_iff] using h
      exact ⟨c, by simp [perform, hread]⟩
  | quote value number =>
      cases number with
      | false => cases h
      | true =>
          have hread : (Scalar.readNumber value).mapError (.notANumber value) = .error failure := by
            simpa [answer, bind_eq_error_iff] using h
          exact ⟨c, by simp [perform, hread]⟩

end Command

namespace Invocation

variable {s : Surroundings} {i : Invocation} {p : Profile} {failure : Failure}

theorem runOn_perform_of_load (hp : Profile.load s.readFile i.config = .ok p) :
    (i.perform s).runOn ⟨[], s.wantsColor⟩ =
      (i.command.perform s p (i.outputFormat p) i.quiet).runOn ⟨[], i.colored s⟩ := by
  have hload : (Profile.load s.readFile i.config).mapError Failure.profile = .ok p := by
    rw [hp]
    rfl
  simp [perform, hload, colored]

theorem run_of_answer (hp : Profile.load s.readFile i.config = .ok p) {a : Answer}
    (h : i.command.answer s (i.outputFormat p) (i.colored s) = .ok a) :
    i.run s = ⟨a.writes p i.quiet (i.colored s), .done a.passed⟩ := by
  have hrun := (runOn_perform_of_load hp).trans (Command.runOn_perform_of_answer h)
  rw [run, hrun]
  rfl

theorem results_of_answer (hp : Profile.load s.readFile i.config = .ok p) {a : Answer}
    (h : i.command.answer s (i.outputFormat p) (i.colored s) = .ok a) :
    (i.run s).exitCode = (if a.passed then 0 else 1) ∧ (i.run s).output = a.output := by
  rw [run_of_answer hp h]
  exact ⟨rfl, a.textOn_output_writes p i.quiet (i.colored s)⟩

theorem run_of_error (hp : Profile.load s.readFile i.config = .ok p)
    (h : i.command.answer s (i.outputFormat p) (i.colored s) = .error failure) :
    ∃ colored, i.run s = ⟨[⟨.messages, failure.report colored⟩], .failed failure⟩ := by
  obtain ⟨next, hnext⟩ := Command.exists_runOn_perform_of_error (c := ⟨[], i.colored s⟩) h
  exact ⟨_, run_of_failure ((runOn_perform_of_load hp).trans hnext)⟩

theorem run_of_load_error {error : ProfileError}
    (h : Profile.load s.readFile i.config = .error error) :
    ∃ colored, i.run s =
      ⟨[⟨.messages, (Failure.profile error).report colored⟩], .failed (.profile error)⟩ := by
  have hload : (Profile.load s.readFile i.config).mapError Failure.profile =
      .error (.profile error) := by
    rw [h]
    rfl
  have hrun : (i.perform s).runOn ⟨[], s.wantsColor⟩ =
      (.error (.profile error), ⟨[], s.wantsColor⟩) := by
    simp [perform, hload]
  exact ⟨_, run_of_failure hrun⟩

end Invocation

end LogFilter
