import LogFilter.Proofs.Command.Pipeline
import LogFilter.Proofs.Query.Problems

/-!
# How runs end

A run ends with the code 2 if its profile cannot be loaded, the clauses that it is given cannot be
read, or a number is none; the report of the failure is then its only write. Other runs write their
warnings and then their output, and only a query that is checked and has problems ends one with the
code 1 (`exitCode_run`).
-/

namespace LogFilter

/-! ## Steps that can fail -/

section

variable {ε δ α : Type} {x : Except ε α} {g : ε → δ}

theorem mapError_eq_ok_iff {a : α} : x.mapError g = .ok a ↔ x = .ok a := by
  cases x <;> simp [Except.mapError]

theorem mapError_eq_error_iff {d : δ} : x.mapError g = .error d ↔ ∃ e, x = .error e ∧ g e = d := by
  cases x <;> simp [Except.mapError]

end

theorem isEmpty_problems (clauses : List Clause) :
    (problems clauses).isEmpty = isValid clauses := by
  rw [Bool.eq_iff_iff, List.isEmpty_iff, isValid_iff]

/-! ## Failures of commands -/

/-- The text of a file, or of the standard input. -/
def Surroundings.textOf (s : Surroundings) : Option Text → Except FileError Text
  | some path => (s.readFile path).bind decodeUtf8
  | none => decodeUtf8 s.input

/-- The failure to read the text of a file, or of the standard input. -/
def Failure.reading : Option Text → FileError → Failure
  | some path, error => .clausesFile path error
  | none, error => .input error

theorem readClausesFrom_eq (s : Surroundings) (file : Option Text) :
    readClausesFrom s file = (s.textOf file).mapError (.reading file) >>= fun text =>
      (Json.readClauses text).mapError .clauses := by
  cases file <;> rfl

namespace Command

/-- Why there is no answer to a command. -/
inductive Fails (s : Surroundings) : Command → Failure → Prop where
  | unreadable {file error} (h : s.textOf file = .error error) :
      Fails s (.stringify file) (.reading file error)
  | undecodable {file text fault} (h : s.textOf file = .ok text)
      (hf : Json.readClauses text = .error fault) : Fails s (.stringify file) (.clauses fault)
  | notANumber {value error} (hi : readInteger? value = none)
      (hf : readFloat value = .error error) : Fails s (.quote value true) (.notANumber value error)

variable {s : Surroundings} {format : OutputFormat} {colored : Bool}

theorem readClausesFrom_eq_error_iff {file : Option Text} {failure : Failure} :
    readClausesFrom s file = .error failure ↔ Fails s (.stringify file) failure := by
  simp only [readClausesFrom_eq, bind_eq_error_iff, mapError_eq_error_iff, mapError_eq_ok_iff]
  constructor
  · rintro (⟨error, h, rfl⟩ | ⟨text, h, fault, hf, rfl⟩)
    · exact .unreadable h
    · exact .undecodable h hf
  · intro h
    cases h with
    | unreadable h => exact .inl ⟨_, h, rfl⟩
    | undecodable h hf => exact .inr ⟨_, h, _, hf, rfl⟩

theorem readNumber_eq_error_iff {value : Text} {failure : Failure} :
    (Scalar.readNumber value).mapError (.notANumber value) = .error failure ↔
      Fails s (.quote value true) failure := by
  rw [mapError_eq_error_iff, Scalar.readNumber]
  constructor
  · rintro ⟨error, hread, rfl⟩
    cases hi : readInteger? value with
    | some n => simp [hi] at hread
    | none =>
        cases hf : readFloat value with
        | ok x => simp [hi, hf, Except.map] at hread
        | error e =>
            obtain rfl : e = error := by simpa [hi, hf, Except.map] using hread
            exact .notANumber hi hf
  · intro h
    cases h with
    | notANumber hi hf => exact ⟨_, by rw [hi, hf]; rfl, rfl⟩

/-- Neither the format nor the colors decide whether there is an answer. -/
theorem answer_eq_error_iff {command : Command} {failure : Failure} :
    command.answer s format colored = .error failure ↔ command.Fails s failure := by
  constructor
  · intro h
    cases command with
    | parse query => cases h
    | server query => cases h
    | validate query => cases h
    | highlight query => cases h
    | stringify file =>
        apply readClausesFrom_eq_error_iff.mp
        simpa [answer, bind_eq_error_iff] using h
    | quote value number =>
        cases number with
        | false => cases h
        | true =>
            apply readNumber_eq_error_iff.mp
            simpa [answer, bind_eq_error_iff] using h
  · intro h
    cases command with
    | parse query => cases h
    | server query => cases h
    | validate query => cases h
    | highlight query => cases h
    | stringify file =>
        rw [answer, readClausesFrom_eq_error_iff.mpr h]
        rfl
    | quote value number =>
        cases number with
        | false => cases h
        | true =>
            rw [answer, if_pos rfl, readNumber_eq_error_iff.mpr h]
            rfl

/-! ## Verdicts of commands -/

/-- Whether a command checks a query that has problems. -/
def FindsProblems (command : Command) : Prop :=
  ∃ query, command = .validate query ∧ isValid (LogFilter.parse query) = false

theorem passed_of_answer {command : Command} {a : Answer}
    (h : command.answer s format colored = .ok a) :
    a.passed = false ↔ command.FindsProblems := by
  cases command with
  | parse query =>
      obtain rfl := Except.ok.inj h
      simp [answerQuery, FindsProblems]
  | server query =>
      obtain rfl := Except.ok.inj h
      simp [answerQuery, FindsProblems]
  | highlight query =>
      obtain rfl := Except.ok.inj h
      simp [answerQuery, FindsProblems]
  | validate query =>
      obtain rfl := Except.ok.inj h
      simp [answerQuery, FindsProblems, isEmpty_problems]
  | stringify file =>
      obtain ⟨clauses, _, ha⟩ := bind_eq_ok_iff.mp h
      obtain rfl := Except.ok.inj ha
      simp [FindsProblems]
  | quote value number =>
      cases number with
      | false =>
          obtain rfl := Except.ok.inj h
          simp [FindsProblems]
      | true =>
          rw [answer, if_pos rfl] at h
          obtain ⟨scalar, _, ha⟩ := bind_eq_ok_iff.mp h
          obtain rfl := Except.ok.inj ha
          simp [FindsProblems]

end Command

/-! ## Runs -/

namespace Invocation

/-- Why a run fails. -/
inductive Fails (s : Surroundings) (i : Invocation) : Failure → Prop where
  | profile {error} (h : Profile.load s.readFile i.config = .error error) :
      Fails s i (.profile error)
  | command {p failure} (hp : Profile.load s.readFile i.config = .ok p)
      (h : i.command.Fails s failure) : Fails s i failure

variable {s : Surroundings} {i : Invocation}

theorem Fails.run_eq {failure : Failure} (h : i.Fails s failure) :
    ∃ colored, i.run s = ⟨[⟨.messages, failure.report colored⟩], .failed failure⟩ := by
  cases h with
  | profile h => exact run_of_load_error h
  | command hp h => exact run_of_error hp (Command.answer_eq_error_iff.mpr h)

/-- A run that does not fail writes its warnings before its output, and passes unless it finds
problems. -/
theorem run_of_not_fails (h : ∀ failure, ¬ i.Fails s failure) :
    ∃ (warned : List Text) (shown : Text) (passed : Bool),
      i.run s = ⟨warned.map (Write.mk .messages) ++ [⟨.output, shown⟩], .done passed⟩ ∧
        (passed = false ↔ i.command.FindsProblems) := by
  cases hp : Profile.load s.readFile i.config with
  | error error => exact (h _ (.profile hp)).elim
  | ok p =>
      cases hanswer : i.command.answer s (i.outputFormat p) (i.colored s) with
      | error failure => exact (h _ (.command hp (Command.answer_eq_error_iff.mp hanswer))).elim
      | ok answer =>
          refine ⟨(answer.warnings p i.quiet).map (·.report (i.colored s)), answer.output,
            answer.passed, ?_, Command.passed_of_answer hanswer⟩
          rw [run_of_answer hp hanswer, Answer.writes, List.map_map]
          rfl

theorem writes_of_fails {failure : Failure} (h : i.Fails s failure) :
    (i.run s).output = [] ∧
      ∃ colored, (i.run s).writes = [⟨.messages, failure.report colored⟩] := by
  obtain ⟨colored, hrun⟩ := h.run_eq
  rw [hrun]
  exact ⟨rfl, colored, rfl⟩

theorem exitCode_of_not_fails (h : ∀ failure, ¬ i.Fails s failure) :
    ((i.run s).exitCode = 1 ↔ i.command.FindsProblems) ∧
      ((i.run s).exitCode = 0 ↔ ¬ i.command.FindsProblems) := by
  obtain ⟨warned, shown, passed, hrun, hpassed⟩ := run_of_not_fails h
  rw [hrun, Outcome.exitCode, ← hpassed]
  cases passed <;> simp

theorem writes_of_not_fails (h : ∀ failure, ¬ i.Fails s failure) :
    ∃ (warned : List Text) (shown : Text),
      (i.run s).writes = warned.map (Write.mk .messages) ++ [⟨.output, shown⟩] := by
  obtain ⟨warned, shown, passed, hrun, -⟩ := run_of_not_fails h
  exact ⟨warned, shown, by rw [hrun]⟩

theorem exitCode_eq_two_iff : (i.run s).exitCode = 2 ↔ ∃ failure, i.Fails s failure := by
  constructor
  · intro hcode
    by_contra hnone
    obtain ⟨hone, hzero⟩ := exitCode_of_not_fails (not_exists.mp hnone)
    by_cases hfinds : i.command.FindsProblems
    · rw [hone.mpr hfinds] at hcode
      cases hcode
    · rw [hzero.mpr hfinds] at hcode
      cases hcode
  · rintro ⟨failure, h⟩
    obtain ⟨colored, hrun⟩ := h.run_eq
    rw [hrun, Outcome.exitCode]

end Invocation

/-! ## The verdict in JSON -/

/-- The document that `validate` writes. -/
def validateJson (errors : List Json) (valid : Bool) : Json :=
  .object [("errors", .list errors), ("valid", .bool valid)]

/-- The document that `server` writes. -/
def serverJson (query : Text) (valid : Bool) : Json :=
  .object [("query", .text query), ("valid", .bool valid)]

section

variable {environment : Option Text} {args : List Text} {s : Surroundings} {query : Text}

theorem Performs.run_validate (h : Performs environment args s (.validate query) .json) :
    (run environment args s).output = (validateJson ((problems (parse query)).map Problem.toJson)
        (isValid (parse query))).write .indented 0 ++ "\n" ∧
      (run environment args s).exitCode = if isValid (parse query) then 0 else 1 := by
  have hanswer : ∀ colored, (Command.validate query).answer s .json colored =
      .ok ⟨(validateJson ((problems (parse query)).map Problem.toJson)
        (isValid (parse query))).write .indented 0 ++ "\n", some (parse query),
        isValid (parse query)⟩ := fun _ => by
    rw [← isEmpty_problems]
    rfl
  obtain ⟨hexit, houtput⟩ := h.results hanswer
  exact ⟨houtput, hexit⟩

theorem Performs.output_server (h : Performs environment args s (.server query) .json) :
    (run environment args s).output =
      (serverJson (serverText (parse query)) (isValid (parse query))).write .indented 0 ++ "\n" := by
  obtain ⟨-, houtput⟩ := h.results fun _ => rfl
  exact houtput

/-- A run with arguments that are accepted ends with the code 2 exactly if it fails, and the report
of the failure is then all that it writes. Otherwise it ends with the code 1 if it checks a query
that has problems, and else with 0, and writes its warnings before its output. As JSON, the verdict
of `validate` agrees with its code and its errors, and with the verdict of `server`. -/
theorem exitCode_run {i : Invocation} (hi : Invocation.ofArguments environment args = .ok i) :
    let outcome := run environment args s
    (outcome.exitCode = 2 ↔ ∃ failure, i.Fails s failure) ∧
      (∀ failure, i.Fails s failure → outcome.output = [] ∧
        ∃ colored, outcome.writes = [⟨.messages, failure.report colored⟩]) ∧
      ((∀ failure, ¬ i.Fails s failure) →
        (outcome.exitCode = 1 ↔ i.command.FindsProblems) ∧
          (outcome.exitCode = 0 ↔ ¬ i.command.FindsProblems) ∧
          ∃ (warned : List Text) (shown : Text),
            outcome.writes = warned.map (Write.mk .messages) ++ [⟨.output, shown⟩]) ∧
      ∀ query, Performs environment args s (.validate query) .json →
        let errors := (problems (parse query)).map Problem.toJson
        ∃ valid, outcome.output = (validateJson errors valid).write .indented 0 ++ "\n" ∧
          (valid = true ↔ outcome.exitCode = 0) ∧ (valid = true ↔ errors = []) ∧
          ∀ environment₂ args₂ s₂, Performs environment₂ args₂ s₂ (.server query) .json →
            (run environment₂ args₂ s₂).output =
              (serverJson (serverText (parse query)) valid).write .indented 0 ++ "\n" := by
  intro outcome
  have hrun : outcome = i.run s := by
    change run environment args s = _
    rw [run, hi]
  refine ⟨?_, ?_, ?_, ?_⟩
  · rw [hrun]
    exact Invocation.exitCode_eq_two_iff
  · rw [hrun]
    exact fun _ => Invocation.writes_of_fails
  · intro hnone
    rw [hrun]
    obtain ⟨hone, hzero⟩ := Invocation.exitCode_of_not_fails hnone
    exact ⟨hone, hzero, Invocation.writes_of_not_fails hnone⟩
  · intro query hquery errors
    obtain ⟨houtput, hcode⟩ := hquery.run_validate
    refine ⟨isValid (parse query), houtput, ?_, ?_, fun _ _ _ hserver => hserver.output_server⟩
    · rw [hcode]
      cases isValid (parse query) <;> simp
    · rw [isValid_iff, List.map_eq_nil_iff]

end

/-- A number that is none, in color, clauses that break off under a profile with a warning to give,
and a query with a key that lacks its value. -/
theorem exitCode_run_open_key :
    let files : Text → Except FileError ByteArray := fun path =>
      if path = ("p.toml" : Text) then .ok (encodeUtf8 "known_keys = ['service-name']\n")
      else .error .notFound
    let s : Surroundings := ⟨files, encodeUtf8 "[", false⟩
    let quoting : List Text := ["--color", "always", "quote", "-n", "4x"]
    let decoding : List Text := ["-cp.toml", "stringify"]
    let checking : List Text := ["validate", "-F", "json", "k:"]
    let serving : List Text := ["-qF=json", "server", "k:"]
    (run none quoting s).exitCode = 2 ∧ (run none quoting s).output = [] ∧
      (∃ colored, (run none decoding s).writes =
        [⟨.messages, (Failure.clauses .truncated).report colored⟩]) ∧
      (run none checking s).exitCode = 1 ∧
      ∃ valid errors, (run none checking s).output =
          (validateJson errors valid).write .indented 0 ++ "\n" ∧ valid ≠ true ∧ errors ≠ [] ∧
        (run none serving s).output =
          (serverJson "k:\"\"" valid).write .indented 0 ++ "\n" := by
  intro files s quoting decoding checking serving
  let quote : Invocation := ⟨.quote "4x" true, none, none, .always, false, 0⟩
  let stringify : Invocation := ⟨.stringify none, none, some "p.toml", .auto, false, 0⟩
  let validate : Invocation := ⟨.validate "k:", some .json, none, .auto, false, 0⟩
  have hquoted : Invocation.ofArguments none quoting = .ok quote := rfl
  have hdecoded : Invocation.ofArguments none decoding = .ok stringify := rfl
  have hchecked : Invocation.ofArguments none checking = .ok validate := rfl
  have hinteger : readInteger? "4x" = none := by decide +kernel
  have hfloat : readFloat "4x" = .error .invalid := by decide +kernel
  have hfails : quote.Fails s (.notANumber "4x" .invalid) :=
    .command rfl (.notANumber hinteger hfloat)
  have hprofile : Profile.ofToml? "known_keys = ['service-name']\n" =
      some ⟨"base", ["service-name"], none⟩ := by decide +kernel
  have hload : Profile.load files (some "p.toml") = .ok ⟨"base", ["service-name"], none⟩ :=
    Profile.load_encodeUtf8 (if_pos rfl) hprofile
  have hbroken : Json.readClauses "[" = .error .truncated := by decide +kernel
  have hbreaks : stringify.Fails s (.clauses .truncated) :=
    .command hload (.undecodable (decodeUtf8_encodeUtf8 _) hbroken)
  have hpasses : ∀ failure, ¬ validate.Fails s failure := by
    rintro failure (h | ⟨-, h⟩)
    · cases h
    · cases h
  have hchecking : Performs none checking s (.validate "k:") .json :=
    ⟨validate, _, hchecked, rfl, rfl, rfl⟩
  have hserving : Performs none serving s (.server "k:") .json :=
    ⟨⟨.server "k:", some .json, none, .auto, true, 0⟩, _, rfl, rfl, rfl, rfl⟩
  have hfinds : (Command.validate "k:").FindsProblems := ⟨_, rfl, by decide +kernel⟩
  obtain ⟨htwo, hquiet, -, -⟩ := exitCode_run (s := s) hquoted
  obtain ⟨-, hreported, -, -⟩ := exitCode_run (s := s) hdecoded
  obtain ⟨-, -, hverdict, hjson⟩ := exitCode_run (s := s) hchecked
  have hone := (hverdict hpasses).1.mpr hfinds
  obtain ⟨valid, hwritten, hzero, hnone, hserved⟩ := hjson "k:" hchecking
  have hvalid : valid ≠ true := fun h => by
    rw [hzero.mp h] at hone
    cases hone
  refine ⟨htwo.mpr ⟨_, hfails⟩, (hquiet _ hfails).1, (hreported _ hbreaks).2, hone, valid, _,
    hwritten, hvalid, fun h => hvalid (hnone.mpr h), ?_⟩
  have htext : serverText (parse "k:") = ("k:\"\"" : Text) := by decide +kernel
  rw [← htext]
  exact hserved _ _ _ hserving

end LogFilter
