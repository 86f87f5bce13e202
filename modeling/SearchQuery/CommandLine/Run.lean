import SearchQuery.CommandLine.Log
import SearchQuery.CommandLine.Report
import SearchQuery.Elastic
import SearchQuery.Parse
import SearchQuery.Settings.File

/-! # What an invocation answers

The arguments come first, then the settings file, then the query. An invocation that is
carried out writes either a document or the report of a failure, and its exit code tells
which. What happens during the parse is logged before that, to the standard error as well.
-/

namespace SearchQuery

/-- The settings without a settings file, for a database of scanned hosts. -/
def exampleSettings : Settings where
  defaultFields := [.ofString "events.hostname", .ofString "events.summary"]
  nestedPaths := [.ofString "events"]
  fieldMapping := Table.ofList [
    (.ofString "host", .ofString "events.host"),
    (.ofString "port", .ofString "open_ports"),
    (.ofString "fingerprint", .ofString "fingerprints"),
    (.ofString "ssl", .ofString "events.ssl")]

/-- The check of the restricted field: every value passes if that is allowed, else none. -/
def pluginCheck (allowed : Bool) : ValueCheck := fun value =>
  if allowed then .ok value else .error (.ofString "plugin field not allowed")

structure Outcome where
  code : Nat
  output : Text := []
  /-- The report of a failure. The lines of the log stand before it. -/
  errors : Text := []
  /-- What is logged, in order. -/
  log : List Event := []
  deriving Repr, DecidableEq

/-- What is written to the standard error with a logger, given the text that names a filter for the
log, if there is one. -/
def Outcome.standardError (outcome : Outcome) (logger : Logger) (named : Option Text) : Text :=
  logger.text named outcome.log ++ outcome.errors

inductive Obstacle where
  | arguments (refusal : Refusal)
  | settings (file : Text) (problem : LoadProblem)
  deriving Repr, DecidableEq

/-- The exit code of a failure: a refused value can be told from a query without meaning. -/
def Failure.exitCode : Failure → Nat
  | .rejected _ => 2
  | _ => 1

namespace Invocation

/-- The query: its words, with single spaces between them. -/
def query (invocation : Invocation) : Text := Text.joinWords invocation.words

/-- The settings that a query is parsed with. The check of the restricted field is always
among them. -/
def settings (invocation : Invocation) (files : Text → Option ByteArray) :
    Except LoadProblem Settings :=
  let loaded := match invocation.settingsFile with
    | some file => Settings.load (files file)
    | none => .ok exampleSettings
  loaded.map fun settings =>
    settings.withCheck (.ofString "plugin") (pluginCheck invocation.allowPlugin)

def answer (invocation : Invocation) (terminal : Terminal) (settings : Settings) : Outcome :=
  let parsed := parse settings invocation.query
  match parsed.failure with
  | none =>
    let layout := if invocation.pretty then .indented else .compact
    { code := 0
      output := parsed.clauses.toClause.render layout ++ ['\n']
      log := parsed.events }
  | some failure =>
    { code := failure.exitCode
      errors := failure.report (invocation.colour.applies terminal)
      log := parsed.events }

end Invocation

/-- What arguments come to, given the files that can be read and the terminal. -/
def runCommand (files : Text → Option ByteArray) (terminal : Terminal) (arguments : List Text) :
    Except Obstacle Outcome :=
  match Invocation.ofArguments arguments with
  | .error refusal => .error (.arguments refusal)
  | .ok invocation =>
    match invocation.settings files, invocation.settingsFile with
    | .ok settings, _ => .ok (invocation.answer terminal settings)
    | .error problem, file => .error (.settings (file.getD []) problem)

/-- The exit code of a command, whether it was carried out or not. -/
def exitCode : Except Obstacle Outcome → Nat
  | .ok outcome => outcome.code
  | .error (.arguments .help) => 0
  | .error (.arguments .usage) => 2
  | .error (.settings _ _) => 1

end SearchQuery
