import SearchQuery.Proofs.RestrictedField

/-! # What a command comes to

A command whose arguments can be carried out and whose settings can be read comes to what the query
comes to: the document of its clauses, or a line that says what is wrong with it. That line is written
part by part so that some parts can stand out, and the failure has its wording besides. The two agree
for every failure, with colours and without. Before the line stands what is logged, which is nothing
but refused values unless a filter asks for more.
-/

namespace SearchQuery

/-! ## The line of a failure -/

/-- What stands before and behind a part of a report on a coloured terminal. -/
def Emphasis.around : Emphasis → Text × Text
  | .plain => ([], [])
  | .heading => (.ofString "\x1b[0m\x1b[1m\x1b[31m", .ofString "\x1b[0m")
  | .field => (.ofString "\x1b[0m\x1b[35m", .ofString "\x1b[0m")
  | .value => (.ofString "\x1b[0m\x1b[32m", .ofString "\x1b[0m")

theorem Emphasis.paint_eq (emphasis : Emphasis) (text : Text) :
    emphasis.paint text = emphasis.around.1 ++ text ++ emphasis.around.2 := by
  cases emphasis <;> simp [paint, around, control, reset, Text.ofString_eq]

namespace Failure

/-- The line that reports a failure, given how its parts are made to stand out. -/
def line (mark : Emphasis → Text → Text) : Failure → Text
  | .rejected rejection =>
    mark .heading (.ofString "error") ++ .ofString ": field error " ++ mark .field rejection.field ++
      .ofString " : " ++ mark .value rejection.value ++ .ofString " (" ++ rejection.reason ++
      .ofString ")\n"
  | failure => mark .heading (.ofString "error") ++ .ofString ": " ++ failure.message ++ ['\n']

theorem line_plain (failure : Failure) :
    failure.line (fun _ text => text) = .ofString "error: " ++ failure.message ++ ['\n'] := by
  cases failure <;> simp [line, message, Text.ofString_eq]

theorem report_eq_line (failure : Failure) (coloured : Bool) :
    failure.report coloured =
      failure.line fun emphasis text => if coloured then emphasis.paint text else text := by
  cases failure <;> cases coloured <;>
    simp [report, reportParts, messageParts, line, Emphasis.paint, Text.ofString_eq]

theorem report_plain (failure : Failure) :
    failure.report false = .ofString "error: " ++ failure.message ++ ['\n'] := by
  rw [report_eq_line]
  exact failure.line_plain

end Failure

/-! ## The log -/

theorem Logger.text_eq_nil {logger : Logger} {named : Option Text} {log : List Event}
    (nothing : logger.written named log = []) : logger.text named log = [] := by
  rw [text, nothing]
  rfl

theorem Logger.text_eq_line {logger : Logger} {named : Option Text} {log : List Event} {event : Event}
    (alone : logger.written named log = [event]) : logger.text named log = logger.line 0 event := by
  rw [text, alone]
  exact List.append_nil _

/-- Without a filter the refused values are written, and nothing else. -/
theorem Logger.written_none (logger : Logger) (log : List Event) :
    logger.written none log = (log.filterMap Event.rejection?).map Event.rejected := by
  induction log with
  | nil => rfl
  | cons event rest ih =>
      cases event with
      | rejected rejection => exact congrArg (.rejected rejection :: ·) ih
      | read | groupOpened | groupEntered | aborted => exact ih

theorem Parsed.Agrees.rejections_eq_nil {parsed : Parsed} (agrees : parsed.Agrees)
    (clean : parsed.failure = none) : parsed.rejections = [] := by
  rcases agrees with ongoing | ⟨fatal, unclosed, failed⟩
  · simpa [ongoing.failure_eq] using clean
  · cases clean.symm.trans failed.failure_eq

/-! ## The words of a query -/

namespace CommandLine.Options

variable {options : Options} {invocation : Invocation}

theorem words_of_invoke {words : List Text} (invoked : options.invoke words = .ok invocation) :
    invocation.words = words ∧ words ≠ [] := by
  unfold invoke at invoked
  split at invoked
  · cases invoked
  · rename_i nonempty
    cases invoked
    exact ⟨rfl, by simpa using nonempty⟩

/-- The words of a query are what is left of the arguments behind the options. -/
theorem words_of_read {arguments : List Text} (read : options.read arguments = .ok invocation) :
    invocation.words ≠ [] ∧ invocation.words <:+ arguments := by
  fun_induction Options.read options arguments with
  | case1 | case4 | case5 | case7 | case8 | case10 | case11 => cases read
  | case2 =>
      obtain ⟨same, nonempty⟩ := words_of_invoke read
      exact ⟨same ▸ nonempty, same ▸ List.suffix_cons _ _⟩
  | case3 _ _ _ _ _ _ _ ih | case6 _ _ _ _ _ _ _ _ ih =>
      obtain ⟨nonempty, behind⟩ := ih read
      exact ⟨nonempty, behind.trans (List.suffix_cons _ _)⟩
  | case9 _ _ _ _ _ _ _ _ _ ih =>
      obtain ⟨nonempty, behind⟩ := ih read
      exact ⟨nonempty, (behind.trans (List.suffix_cons _ _)).trans (List.suffix_cons _ _)⟩
  | case12 =>
      obtain ⟨same, nonempty⟩ := words_of_invoke read
      exact ⟨same ▸ nonempty, same ▸ List.suffix_refl _⟩

end CommandLine.Options

/-! ## The outcome -/

theorem runCommand_of_settings {files : Text → Option ByteArray} {terminal : Terminal}
    {arguments : List Text} {invocation : Invocation} {settings : Settings}
    (invoked : Invocation.ofArguments arguments = .ok invocation)
    (loaded : invocation.settings files = .ok settings) :
    runCommand files terminal arguments = .ok (invocation.answer terminal settings) := by
  simp only [runCommand, invoked, loaded]

/-- A command comes to what its query is parsed as. If nothing is reported it writes the document, and
if something is, one line with the wording of the failure. On a coloured terminal nothing but the
sequences around the parts that stand out is added to the line. Before it the standard error holds
what is written of the log: without a filter that is one line for every refused value, and so nothing
if nothing is reported. -/
theorem command_answers_parse (files : Text → Option ByteArray) (terminal : Terminal)
    (arguments : List Text) (invocation : Invocation) (settings : Settings)
    (invoked : Invocation.ofArguments arguments = .ok invocation)
    (loaded : invocation.settings files = .ok settings) :
    invocation.words ≠ [] ∧ invocation.words <:+ arguments ∧
    settings.checks.find? restrictedField = some (pluginCheck invocation.allowPlugin) ∧
    ∃ outcome, runCommand files terminal arguments = .ok outcome ∧
      let parsed := parse settings (List.intercalate [' '] invocation.words)
      (∀ (logger : Logger) (named : Option Text),
        outcome.standardError logger named = logger.text named parsed.events ++ outcome.errors) ∧
      (∀ logger : Logger,
        logger.written none parsed.events = parsed.rejections.map Event.rejected) ∧
      match parsed.failure with
      | none =>
        let layout := if invocation.pretty then Layout.indented else .compact
        outcome.code = 0 ∧ outcome.output = parsed.clauses.toClause.render layout ++ ['\n'] ∧
        outcome.errors = [] ∧ ∀ logger, outcome.standardError logger none = []
      | some failure =>
        let plainLine := .ofString "error: " ++ failure.message ++ ['\n']
        outcome.output = [] ∧ outcome.code = (if failure.isFatal then 1 else 2) ∧
        failure.line (fun _ text => text) = plainLine ∧
        outcome.errors =
          if invocation.colour.applies terminal then
            failure.line fun emphasis text => emphasis.around.1 ++ text ++ emphasis.around.2
          else plainLine := by
  obtain ⟨nonempty, behind⟩ := CommandLine.Options.words_of_read invoked
  refine ⟨nonempty, behind, Invocation.find?_checks_of_settings loaded, _,
    runCommand_of_settings invoked loaded, ?_⟩
  intro parsed
  have isParsed : parse settings invocation.query = parsed := rfl
  have written : ∀ logger : Logger,
      logger.written none parsed.events = parsed.rejections.map Event.rejected :=
    fun logger => logger.written_none parsed.events
  have agrees : parsed.Agrees := agrees_parseAt settings 0 0 invocation.query
  simp only [Invocation.answer, isParsed]
  cases failed : parsed.failure with
  | none =>
      refine ⟨fun _ _ => rfl, written, rfl, rfl, rfl, fun logger => ?_⟩
      have nothing : logger.written none parsed.events = [] := by
        rw [written, agrees.rejections_eq_nil failed]
        rfl
      rw [Outcome.standardError, Logger.text_eq_nil nothing]
      rfl
  | some failure =>
      refine ⟨fun _ _ => rfl, written, rfl, ?_, failure.line_plain, ?_⟩
      · cases failure <;> rfl
      · simp only [failure.report_eq_line, ← failure.line_plain, ← Emphasis.paint_eq]
        cases invocation.colour.applies terminal <;> rfl

/-- A coloured report of a value of the restricted field, with a word behind it, and the line of the
log before it. -/
theorem command_answers_parse_refused :
    let arguments : List Text :=
      [.ofString "--color=always", .ofString "plugin:x", .ofString "y"]
    ∃ invocation settings, Invocation.ofArguments arguments = .ok invocation ∧
      invocation.settings (fun _ => none) = .ok settings ∧
      ∃ outcome, runCommand (fun _ => none) ⟨none, false⟩ arguments = .ok outcome ∧
        outcome.output = [] ∧ outcome.code = 2 ∧
        outcome.standardError .plain none =
          .ofString "WARN field callback rejected value field=\"plugin\" value=x " ++
          .ofString "error=plugin field not allowed\n" ++
          .ofString "\x1b[0m\x1b[1m\x1b[31merror\x1b[0m: field error " ++
          .ofString "\x1b[0m\x1b[35mplugin\x1b[0m : \x1b[0m\x1b[32mx\x1b[0m " ++
          .ofString "(plugin field not allowed)\n" := by
  intro arguments
  let invocation : Invocation :=
    { words := [.ofString "plugin:x", .ofString "y"]
      settingsFile := none
      pretty := false
      allowPlugin := false
      colour := .always }
  let settings := exampleSettings.withCheck restrictedField (pluginCheck false)
  let rejection : Rejection :=
    ⟨restrictedField, ['x'], .ofString "plugin field not allowed"⟩
  have invoked : Invocation.ofArguments arguments = .ok invocation :=
    ok_of_toOption (by decide +kernel)
  have loaded : invocation.settings (fun _ => none) = .ok settings := rfl
  have refused : (parse settings (List.intercalate [' '] invocation.words)).failure =
      some (.rejected rejection) := by decide +kernel
  have warned : (parse settings (List.intercalate [' '] invocation.words)).rejections =
      [rejection] := by decide +kernel
  obtain ⟨-, -, -, outcome, ran, logged, written, answered⟩ :=
    command_answers_parse (fun _ => none) ⟨none, false⟩ arguments invocation settings invoked loaded
  simp only [refused] at answered
  obtain ⟨noOutput, code, -, errors⟩ := answered
  refine ⟨invocation, settings, invoked, loaded, outcome, ran, noOutput, code, ?_⟩
  rw [logged, Logger.text_eq_line ((written .plain).trans (congrArg _ warned)), errors]
  decide +kernel

/-- A refused value is written before the line that reports it, unless the logger has no line for it. -/
theorem refused_value_written_before_report :
    let arguments : List Text := [.ofString "--color=never", .ofString "plugin:x"]
    let rejection : Rejection := ⟨restrictedField, ['x'], .ofString "plugin field not allowed"⟩
    ∃ invocation settings outcome, Invocation.ofArguments arguments = .ok invocation ∧
      invocation.settings (fun _ => none) = .ok settings ∧
      (parse settings invocation.query).failure = some (.rejected rejection) ∧
      runCommand (fun _ => none) ⟨none, false⟩ arguments = .ok outcome ∧
      invocation.colour.applies ⟨none, false⟩ = false ∧
      ∀ logger : Logger, logger.line 0 (.rejected rejection) ≠ [] →
        outcome.standardError logger none ≠
          .ofString "error: " ++ (Failure.rejected rejection).message ++ ['\n'] := by
  intro arguments rejection
  let invocation : Invocation :=
    { words := [.ofString "plugin:x"]
      settingsFile := none
      pretty := false
      allowPlugin := false
      colour := .never }
  let settings := exampleSettings.withCheck restrictedField (pluginCheck false)
  have invoked : Invocation.ofArguments arguments = .ok invocation :=
    ok_of_toOption (by decide +kernel)
  have loaded : invocation.settings (fun _ => none) = .ok settings := rfl
  have refused : (parse settings invocation.query).failure = some (.rejected rejection) := by
    decide +kernel
  have warned : (parse settings invocation.query).rejections = [rejection] := by decide +kernel
  refine ⟨invocation, settings, _, invoked, loaded, refused,
    runCommand_of_settings invoked loaded, rfl, ?_⟩
  intro logger hasLine same
  have written : logger.written none (parse settings invocation.query).events =
      [.rejected rejection] :=
    (logger.written_none _).trans (congrArg (List.map Event.rejected) warned)
  simp only [Outcome.standardError, Invocation.answer, refused] at same
  rw [Logger.text_eq_line written, ← Failure.report_plain] at same
  exact hasLine (List.append_left_eq_self.1 same)

end SearchQuery
