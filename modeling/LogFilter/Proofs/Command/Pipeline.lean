import LogFilter.Proofs.Command.Answers
import LogFilter.Proofs.Json.RoundTrip

/-!
# From one run to the next

What a run writes is UTF-8, and another run may read it. The clauses that `parse` writes as JSON
come through to `stringify`, which writes the query anew, and `parse` finds the same keys and
values in that query again.
-/

namespace LogFilter

/-! ## Bytes between runs -/

/-- The bytes that are written for a text. -/
def encodeUtf8 (s : Text) : ByteArray := (String.ofList s).toUTF8

theorem decodeUtf8_encodeUtf8 (s : Text) : decodeUtf8 (encodeUtf8 s) = .ok s := by
  have hvalid : (encodeUtf8 s).IsValidUTF8 := (String.ofList s).isValidUTF8
  rw [decodeUtf8, String.fromUTF8?, dif_pos hvalid]
  exact congrArg Except.ok String.toList_ofList

theorem readClausesFrom_encodeUtf8 {s : Surroundings} {text : Text}
    (h : s.input = encodeUtf8 text) :
    readClausesFrom s none = (Json.readClauses text).mapError .clauses := by
  rw [readClausesFrom, h, decodeUtf8_encodeUtf8]
  rfl

theorem Profile.load_encodeUtf8 {read : Text → Except FileError ByteArray} {path text : Text}
    {p : Profile} (hfile : read path = .ok (encodeUtf8 text)) (hp : ofToml? text = some p) :
    load read (some path) = .ok p := by
  have hdecode : (Except.ok (encodeUtf8 text) : Except FileError ByteArray).bind decodeUtf8 =
      .ok text := decodeUtf8_encodeUtf8 text
  simp only [load, ofFile, hfile, hdecode, hp]

/-! ## Runs that get to their command -/

/-- The arguments ask for a command, the profile loads, and together they choose a format. -/
def Performs (environment : Option Text) (args : List Text) (s : Surroundings) (command : Command)
    (format : OutputFormat) : Prop :=
  ∃ i p, Invocation.ofArguments environment args = .ok i ∧ i.command = command ∧
    Profile.load s.readFile i.config = .ok p ∧ i.outputFormat p = format

variable {environment : Option Text} {args : List Text} {s : Surroundings} {command : Command}
  {format : OutputFormat}

/-- A run of a command that has one answer, in color or not, ends with the output of it. -/
theorem Performs.results (h : Performs environment args s command format) {answer : Answer}
    (hanswer : ∀ colored, command.answer s format colored = .ok answer) :
    (run environment args s).exitCode = (if answer.passed then 0 else 1) ∧
      (run environment args s).output = answer.output := by
  obtain ⟨i, p, hi, rfl, hp, rfl⟩ := h
  have hrun : run environment args s = i.run s := by rw [run, hi]
  rw [hrun]
  exact Invocation.results_of_answer hp (hanswer _)

theorem Performs.output_parse {query : Text}
    (h : Performs environment args s (.parse query) .json) :
    (run environment args s).output = (clausesToJson (parse query)).write .indented 0 ++ "\n" := by
  obtain ⟨-, houtput⟩ := h.results fun _ => rfl
  exact houtput

theorem Performs.run_stringify {clauses : List Clause}
    (h : Performs environment args s (.stringify none) .text)
    (hclauses : readClausesFrom s none = .ok clauses) :
    (run environment args s).exitCode = 0 ∧
      (run environment args s).output = editText clauses ++ "\n" := by
  have hanswer : ∀ colored, (Command.stringify none).answer s .text colored =
      .ok ⟨editText clauses ++ "\n", some clauses, true⟩ := fun _ => by
    rw [Command.answer, hclauses]
    rfl
  obtain ⟨hexit, houtput⟩ := h.results hanswer
  exact ⟨hexit, houtput⟩

/-- The clauses that `parse` writes as JSON are read by `stringify`, whatever the profiles of the
two runs are: it succeeds and writes the query anew. That query, parsed by a third run, has the keys
and values of the first. Offsets are 64-bit numbers, so that they count the bytes of a query. -/
theorem stringify_output_of_parse {query : Text} (hquery : byteLength query ≤ maxOffset)
    {environment₁ environment₂ : Option Text} {args₁ args₂ : List Text} {s₁ s₂ : Surroundings}
    (hparse : Performs environment₁ args₁ s₁ (.parse query) .json)
    (hstringify : Performs environment₂ args₂ s₂ (.stringify none) .text)
    (hinput : s₂.input = encodeUtf8 (run environment₁ args₁ s₁).output) :
    (run environment₁ args₁ s₁).output =
        (clausesToJson (parse query)).write .indented 0 ++ "\n" ∧
      (run environment₂ args₂ s₂).exitCode = 0 ∧
      (run environment₂ args₂ s₂).output = editText (parse query) ++ "\n" ∧
      ∀ (environment₃ : Option Text) (args₃ : List Text) (s₃ : Surroundings),
        Performs environment₃ args₃ s₃ (.parse (run environment₂ args₂ s₂).output.dropLast) .json →
          ∃ clauses,
            (run environment₃ args₃ s₃).output =
              (clausesToJson clauses).write .indented 0 ++ "\n" ∧
            clauses.map Clause.content = (parse query).map Clause.content := by
  have hnewline : Json.IsJsonGap "\n" := by simp [Json.IsJsonGap, Json.isJsonBlank]
  have hclauses : readClausesFrom s₂ none = .ok (parse query) := by
    rw [readClausesFrom_encodeUtf8 hinput, hparse.output_parse,
      Json.readClauses_write_parse hquery .indented hnewline]
    rfl
  obtain ⟨hexit, houtput⟩ := hstringify.run_stringify hclauses
  refine ⟨hparse.output_parse, hexit, houtput, fun environment₃ args₃ s₃ hagain => ?_⟩
  have hline : (run environment₂ args₂ s₂).output.dropLast = editText (parse query) := by
    rw [houtput]
    exact List.dropLast_concat
  rw [hline] at hagain
  refine ⟨parse (editText (parse query)), hagain.output_parse, ?_⟩
  rw [parse_editText (readable_parse query), content_rebase]

/-- The format comes from a profile where it is not an option, and the query ends in an empty body
and has a quote, a control character and a wide blank in it. -/
theorem stringify_output_of_parse_profile :
    let query : Text := "a:\"x\\\"\x01\" \u3000b\tc k: "
    let files : Text → Except FileError ByteArray := fun path =>
      if path = ("p.toml" : Text) then .ok (encodeUtf8 "format = 'json'\n") else .error .notFound
    let first := run none ["--config=p.toml", "parse", query] ⟨files, .empty, false⟩
    let second := run none ["-Ftext", "-cp.toml", "stringify"]
      ⟨files, encodeUtf8 first.output, false⟩
    second.exitCode = 0 ∧ second.output = "a:\"x\\\"\x01\" b\tc k: \n" ∧
      ∃ clauses,
        (run none ["parse", "-F", "json", "--", second.output.dropLast]
            ⟨files, .empty, false⟩).output = (clausesToJson clauses).write .indented 0 ++ "\n" ∧
        clauses.map Clause.content = (parse query).map Clause.content := by
  intro query files first second
  have hprofile : Profile.ofToml? "format = 'json'\n" = some ⟨"base", [], some .json⟩ := by
    decide +kernel
  have hload : Profile.load files (some "p.toml") = .ok ⟨"base", [], some .json⟩ :=
    Profile.load_encodeUtf8 (if_pos rfl) hprofile
  have hparse : Performs none ["--config=p.toml", "parse", query] ⟨files, .empty, false⟩
      (.parse query) .json :=
    ⟨⟨.parse query, none, some "p.toml", .auto, false, 0⟩, _, rfl, rfl, hload, rfl⟩
  have hstringify : Performs none ["-Ftext", "-cp.toml", "stringify"]
      ⟨files, encodeUtf8 first.output, false⟩ (.stringify none) .text :=
    ⟨⟨.stringify none, some .text, some "p.toml", .auto, false, 0⟩, _, rfl, rfl, hload, rfl⟩
  have hagain : Performs none ["parse", "-F", "json", "--", second.output.dropLast]
      ⟨files, .empty, false⟩ (.parse second.output.dropLast) .json :=
    ⟨⟨.parse second.output.dropLast, some .json, none, .auto, false, 0⟩, _, rfl, rfl, rfl, rfl⟩
  have hquery : byteLength query ≤ maxOffset := by decide
  -- `rfl` would compute the output of the first run
  obtain ⟨-, hexit, houtput, hthird⟩ :=
    stringify_output_of_parse hquery hparse hstringify (by dsimp only)
  have htext : editText (parse query) ++ "\n" = ("a:\"x\\\"\x01\" b\tc k: \n" : Text) := by
    decide +kernel
  exact ⟨hexit, houtput.trans htext, hthird _ _ _ hagain⟩

end LogFilter
