import SearchQuery.CommandLine.Arguments
import SearchQuery.Failure

/-! # Reports of failures

A failure is reported on a line of its own. On a coloured terminal the word in front and the
field and value of a rejection stand out; the text is the same either way.
-/

namespace SearchQuery

structure Terminal where
  kind : Option Text
  monochrome : Bool
  deriving Repr, DecidableEq

def ColourChoice.applies (choice : ColourChoice) (terminal : Terminal) : Bool :=
  match choice with
  | .always => true
  | .never => false
  | .auto =>
    match terminal.kind with
    | none => false
    | some kind => kind != .ofString "dumb" && !terminal.monochrome

/-- What a part of a report stands out as. -/
inductive Emphasis where
  | plain
  | heading
  | field
  | value
  deriving Repr, DecidableEq

namespace Emphasis

def control (parameter : Text) : Text := '\x1b' :: '[' :: parameter ++ ['m']

def reset : Text := control ['0']

/-- A part of a report with the sequences that make it stand out. -/
def paint (text : Text) : Emphasis → Text
  | .plain => text
  | .heading => reset ++ control ['1'] ++ control ['3', '1'] ++ text ++ reset
  | .field => reset ++ control ['3', '5'] ++ text ++ reset
  | .value => reset ++ control ['3', '2'] ++ text ++ reset

end Emphasis

namespace Failure

def messageParts : Failure → List (Emphasis × Text)
  | .rejected rejection =>
    [(.plain, .ofString "field error "), (.field, rejection.field), (.plain, .ofString " : "),
      (.value, rejection.value), (.plain, .ofString " ("), (.plain, rejection.reason),
      (.plain, .ofString ")")]
  | failure => [(.plain, failure.message)]

def reportParts (failure : Failure) : List (Emphasis × Text) :=
  (.heading, .ofString "error") :: (.plain, .ofString ": ") :: failure.messageParts ++
    [(.plain, ['\n'])]

def report (failure : Failure) (coloured : Bool) : Text :=
  failure.reportParts.flatMap fun (emphasis, text) =>
    if coloured then emphasis.paint text else text

end Failure

end SearchQuery
