import SearchQuery.CommandLine.Run
import SearchQuery.Proofs.SearchedFields

/-! # The restricted field

Without the switch that allows it, no document that the program writes searches the restricted field.
Its values are refused by the name that it is stored under, so it does not matter how a query comes
to it, and the subfield of its unanalysed form is not reached through it, either. The subfield is a
field with a name of its own, though: who names it, in a query or in the settings, may search it.
-/

namespace SearchQuery

/-- The field that may be searched only if that is allowed. -/
def restrictedField : Text := .ofString "plugin"

/-- The field of the unanalysed form of the restricted one. -/
def restrictedSubfield : Text := restrictedField ++ .ofString ".keyword"

/-- The argument that allows the restricted field. -/
def allowingArgument : Text := .ofString "--allow-plugin"

/-- The fields that a leaf is matched against. -/
def Clause.fields : Clause → List Text
  | .text field _ _ | .keyword field _ | .range field _ _ | .regex field _ => [field]
  | .freeText _ fields => fields
  | .nested _ _ | .bool _ _ _ => []

namespace CommandLine

theorem eq_of_switchNamed {name : Text} (named : switchNamed? name = some .allowPlugin) :
    name = .ofString "allow-plugin" := by
  unfold switchNamed? at named
  split at named
  · cases named
  · split at named
    · assumption
    · split at named <;> cases named

theorem Argument.eq_of_ofLong {body : Text} (isSwitch : ofLong body = .switch .allowPlugin) :
    body = .ofString "allow-plugin" := by
  simp only [ofLong] at isSwitch
  split at isSwitch
  · rename_i found isFound noValue
    cases isSwitch
    -- There is no equals sign, so the name is all there is.
    have nothing : body.dropWhile (· ≠ '=') = [] := by
      cases rest : body.dropWhile (· ≠ '=') with
      | nil => rfl
      | cons => rw [rest] at noValue; cases noValue
    rw [← List.takeWhile_append_dropWhile (p := (· ≠ '=')) (l := body), nothing, List.append_nil]
    exact eq_of_switchNamed isFound
  all_goals cases isSwitch

theorem Argument.ofLetters_ne (letters : Text) : ofLetters letters ≠ .switch .allowPlugin := by
  unfold ofLetters
  split
  · split <;> nofun
  · nofun

theorem Argument.eq_of_ofText {argument : Text} (isSwitch : ofText argument = .switch .allowPlugin) :
    argument = allowingArgument := by
  unfold ofText at isSwitch
  split at isSwitch
  · cases isSwitch
  · rw [eq_of_ofLong isSwitch]
    decide +kernel
  · exact absurd isSwitch (ofLetters_ne _)
  · cases isSwitch

namespace Options

variable {options after : Options} {invocation : Invocation}

theorem allowPlugin_of_turnOn {switch : Switch} (turned : options.turnOn switch = .ok after) :
    after.allowPlugin = options.allowPlugin ∨ switch = .allowPlugin := by
  cases switch with
  | allowPlugin => exact .inr rfl
  | help => cases turned
  | pretty =>
      simp only [turnOn] at turned
      split at turned
      · cases turned
      · cases turned
        exact .inl rfl

theorem allowPlugin_of_set {parameter : Parameter} {value : Text}
    (done : options.set parameter value = .ok after) : after.allowPlugin = options.allowPlugin := by
  unfold set at done
  split at done <;> split at done <;> cases done <;> rfl

theorem allowPlugin_of_invoke {words : List Text} (invoked : options.invoke words = .ok invocation) :
    invocation.allowPlugin = options.allowPlugin := by
  unfold invoke at invoked
  split at invoked <;> cases invoked
  rfl

/-- Nothing is allowed but by the argument for it. -/
theorem allowPlugin_of_read {arguments : List Text} (read : options.read arguments = .ok invocation)
    (notGiven : allowingArgument ∉ arguments) : invocation.allowPlugin = options.allowPlugin := by
  fun_induction Options.read options arguments with
  | case1 | case4 | case5 | case7 | case8 | case10 | case11 => cases read
  | case2 | case12 => exact allowPlugin_of_invoke read
  | case3 options argument rest switch isSwitch after turned ih =>
      simp only [List.mem_cons, not_or] at notGiven
      rw [ih read notGiven.2]
      rcases allowPlugin_of_turnOn turned with same | rfl
      · exact same
      · exact absurd (Argument.eq_of_ofText isSwitch).symm notGiven.1
  | case6 options argument rest parameter value isParameter after done ih =>
      rw [ih read fun given => notGiven (List.mem_cons_of_mem _ given), allowPlugin_of_set done]
  | case9 options argument parameter isParameter value rest isValue after done ih =>
      simp only [List.mem_cons, not_or] at notGiven
      rw [ih read notGiven.2.2, allowPlugin_of_set done]

end Options

end CommandLine

theorem MatchKind.fields_leaf (kind : MatchKind) (field value : Text) (quoted : Bool) :
    (kind.leaf field value quoted).fields = [field] ∨
      (kind.leaf field value quoted).fields = [field ++ .ofString ".keyword"] := by
  cases kind with
  | auto | phrase => exact .inl rfl
  | sigil sigil =>
      cases sigil with
      | keyword => exact .inr rfl
      | regex | above | below | freeText => exact .inl rfl

theorem restrictedField_ne_append (field : Text) :
    restrictedField ≠ field ++ .ofString ".keyword" := by
  intro same
  have shorter : restrictedField.length < (Text.ofString ".keyword").length := by decide +kernel
  rw [same, List.length_append] at shorter
  omega

section

variable {settings : Settings} {query : Text}

theorem baseField?_ne_of_refused (clean : (parse settings query).failure = none) {field : Text}
    {check : ValueCheck} (registered : settings.checks.find? field = some check)
    (refuses : ∀ input, ∃ reason, check input = .error reason) :
    ∀ leaf ∈ (parse settings query).clauses.leaves, leaf.baseField? ≠ some field := by
  intro leaf member onField
  obtain ⟨value, known⟩ := Clause.exists_value_of_baseField onField
  obtain ⟨input, accepted⟩ := admitted_parseAt settings 0 0 query clean leaf member field value
    onField known check registered
  obtain ⟨reason, refused⟩ := refuses input
  cases accepted.symm.trans refused

/-- What a leaf can be matched against if the values of the restricted field are all refused. -/
theorem restricted_of_mem_leaves (clean : (parse settings query).failure = none)
    (registered : settings.checks.find? restrictedField = some (pluginCheck false)) {leaf : Clause}
    (member : leaf ∈ (parse settings query).clauses.leaves) :
    restrictedField ∉ leaf.fields ∧ (∀ value, leaf ≠ .keyword restrictedSubfield value) ∧
      (restrictedSubfield ∈ leaf.fields →
        settings.Searches (parse settings query).events restrictedSubfield) := by
  have elsewhere : leaf.baseField? ≠ some restrictedField :=
    baseField?_ne_of_refused clean registered (fun _ => ⟨_, rfl⟩) leaf member
  obtain ⟨kind, field, value, quoted, rfl, searches⟩ := searching_parseAt settings 0 0 query leaf member
  have other : field ≠ restrictedField := by
    rintro rfl
    exact elsewhere (kind.baseField?_leaf _ _ _)
  refine ⟨?_, ?_, ?_⟩
  · rcases kind.fields_leaf field value quoted with isField | isField
    · rw [isField, List.mem_singleton]
      exact other.symm
    · rw [isField, List.mem_singleton]
      exact restrictedField_ne_append field
  · intro found isKeyword
    rw [isKeyword] at elsewhere
    exact elsewhere (congrArg some (Field.analysed_append_keyword restrictedField))
  · intro onSubfield
    rcases kind.fields_leaf field value quoted with isField | isField
    · rw [isField, List.mem_singleton] at onSubfield
      exact onSubfield ▸ searches
    · rw [isField, List.mem_singleton] at onSubfield
      exact absurd (List.append_cancel_right onSubfield).symm other

end

theorem ok_of_toOption {ε α : Type} {result : Except ε α} {value : α}
    (isValue : result.toOption = some value) : result = .ok value := by
  cases result with
  | error => cases isValue
  | ok found => exact congrArg Except.ok (Option.some.inj isValue)

theorem exists_of_map_eq_ok {ε α β : Type} {f : α → β} {result : Except ε α} {mapped : β}
    (isOk : result.map f = .ok mapped) : ∃ original, f original = mapped := by
  cases result with
  | error => cases isOk
  | ok original => exact ⟨original, Except.ok.inj isOk⟩

namespace Invocation

variable {invocation : Invocation} {files : Text → Option ByteArray} {terminal : Terminal}
  {settings : Settings}

theorem find?_checks_of_settings (loaded : invocation.settings files = .ok settings) :
    settings.checks.find? restrictedField = some (pluginCheck invocation.allowPlugin) := by
  obtain ⟨written, rfl⟩ := exists_of_map_eq_ok loaded
  rw [Settings.withCheck, restrictedField, Table.find?_insert, if_pos rfl]

theorem failure_of_answer (succeeded : (invocation.answer terminal settings).code = 0) :
    (parse settings invocation.query).failure = none := by
  simp only [answer] at succeeded
  cases failed : (parse settings invocation.query).failure with
  | none => rfl
  | some failure =>
      rw [failed] at succeeded
      cases failure <;> cases succeeded

theorem output_of_answer (clean : (parse settings invocation.query).failure = none) :
    (invocation.answer terminal settings).output =
      (parse settings invocation.query).clauses.toClause.render
        (if invocation.pretty then .indented else .compact) ++ ['\n'] := by
  simp only [answer, clean]

end Invocation

/-- A command is an invocation that is answered with its settings. -/
theorem exists_answer_of_runCommand {files : Text → Option ByteArray} {terminal : Terminal}
    {arguments : List Text} {outcome : Outcome}
    (ran : runCommand files terminal arguments = .ok outcome) :
    ∃ invocation settings, Invocation.ofArguments arguments = .ok invocation ∧
      invocation.settings files = .ok settings ∧ outcome = invocation.answer terminal settings := by
  simp only [runCommand] at ran
  cases invoked : Invocation.ofArguments arguments with
  | error refusal =>
      rw [invoked] at ran
      cases ran
  | ok invocation =>
      simp only [invoked] at ran
      cases loaded : invocation.settings files with
      | error problem =>
          rw [loaded] at ran
          cases ran
      | ok settings =>
          rw [loaded] at ran
          cases ran
          exact ⟨invocation, settings, rfl, loaded, rfl⟩

/-- A document searches the restricted field only if that was allowed. Its subfield is not searched
through it, either, but only where it is named itself. -/
theorem restricted_field_not_searched (files : Text → Option ByteArray) (terminal : Terminal)
    (arguments : List Text) (outcome : Outcome)
    (ran : runCommand files terminal arguments = .ok outcome) (succeeded : outcome.code = 0) :
    ∃ invocation settings, Invocation.ofArguments arguments = .ok invocation ∧
      invocation.settings files = .ok settings ∧
      let parsed := parse settings invocation.query
      let layout := if invocation.pretty then Layout.indented else .compact
      outcome.output = parsed.clauses.toClause.render layout ++ ['\n'] ∧
      (allowingArgument ∉ arguments → invocation.allowPlugin = false) ∧
      (invocation.allowPlugin = false → ∀ leaf ∈ parsed.clauses.toClause.leaves,
        restrictedField ∉ leaf.fields ∧ (∀ value, leaf ≠ .keyword restrictedSubfield value) ∧
        (restrictedSubfield ∈ leaf.fields →
          settings.Searches parsed.events restrictedSubfield)) := by
  obtain ⟨invocation, settings, invoked, loaded, rfl⟩ := exists_answer_of_runCommand ran
  have clean := Invocation.failure_of_answer succeeded
  have registered := Invocation.find?_checks_of_settings loaded
  refine ⟨invocation, settings, invoked, loaded, Invocation.output_of_answer clean, ?_, ?_⟩
  · exact CommandLine.Options.allowPlugin_of_read invoked
  · intro notAllowed leaf member
    rw [notAllowed] at registered
    exact restricted_of_mem_leaves clean registered member

/-- The words `host=a` and `-plugin.keyword:b`, of which the second names the subfield itself. -/
theorem restricted_field_not_searched_sample :
    let arguments : List Text := [.ofString "host=a", .ofString "-plugin.keyword:b"]
    allowingArgument ∉ arguments ∧
    ∃ outcome invocation settings, runCommand (fun _ => none) ⟨none, false⟩ arguments = .ok outcome ∧
      outcome.code = 0 ∧ Invocation.ofArguments arguments = .ok invocation ∧
      invocation.settings (fun _ => none) = .ok settings ∧
      let parsed := parse settings invocation.query
      ∀ leaf ∈ parsed.clauses.toClause.leaves,
        restrictedField ∉ leaf.fields ∧ (∀ value, leaf ≠ .keyword restrictedSubfield value) ∧
        (restrictedSubfield ∈ leaf.fields →
          settings.Searches parsed.events restrictedSubfield) := by
  intro arguments
  have notGiven : allowingArgument ∉ arguments := by decide +kernel
  have answered : (runCommand (fun _ => none) ⟨none, false⟩ arguments).toOption.map Outcome.code =
      some 0 := by decide +kernel
  obtain ⟨outcome, isOutcome, succeeded⟩ := Option.map_eq_some_iff.1 answered
  have ran := ok_of_toOption isOutcome
  obtain ⟨invocation, settings, invoked, loaded, -, notAllowed, restricted⟩ :=
    restricted_field_not_searched _ _ _ _ ran succeeded
  exact ⟨notGiven, outcome, invocation, settings, ran, succeeded, invoked, loaded,
    restricted (notAllowed notGiven)⟩

/-- Named itself the subfield is searched, and nothing is reported. -/
theorem restricted_subfield_searched :
    let arguments : List Text := [.ofString "plugin.keyword:x"]
    let settings := exampleSettings.withCheck restrictedField (pluginCheck false)
    let parsed := parse settings (.ofString "plugin.keyword:x")
    let leaf : Clause := .text restrictedSubfield ['x'] false
    allowingArgument ∉ arguments ∧
    runCommand (fun _ => none) ⟨none, false⟩ arguments =
      .ok { code := 0
            output := parsed.clauses.toClause.render .compact ++ ['\n']
            log := parsed.events } ∧
    leaf ∈ parsed.clauses.toClause.leaves ∧ restrictedSubfield ∈ leaf.fields := by
  intro arguments settings parsed leaf
  have notGiven : allowingArgument ∉ arguments := by decide +kernel
  have ran : runCommand (fun _ => none) ⟨none, false⟩ arguments =
      .ok { code := 0
            output := parsed.clauses.toClause.render .compact ++ ['\n']
            log := parsed.events } :=
    ok_of_toOption (by decide +kernel)
  exact ⟨notGiven, ran, by decide +kernel, List.mem_singleton_self _⟩

end SearchQuery
