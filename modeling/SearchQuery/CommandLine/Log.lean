import SearchQuery.Text.Shown
import SearchQuery.Trace

/-! # The log of a parse

What happens during a parse is logged as it happens, each event at the level that it matters at. Which
of the events are written, and how, is up to the logger that the program is given: it reads a filter,
which the environment names in `YQL_LOG`, and it has a line for every event. Without a filter only
warnings are written, and the only events that are warnings are refused values.
-/

namespace SearchQuery

inductive Level where
  | trace
  | debug
  | info
  | warn
  | error
  deriving Repr, DecidableEq

namespace Level

def name : Level → Text
  | .trace => .ofString "TRACE"
  | .debug => .ofString "DEBUG"
  | .info => .ofString "INFO"
  | .warn => .ofString "WARN"
  | .error => .ofString "ERROR"

/-- How much an event at the level matters. -/
def severity : Level → Nat
  | .trace => 0
  | .debug => 1
  | .info => 2
  | .warn => 3
  | .error => 4

end Level

/-- What is logged with an event: a number, or a text, which is written as it is or between quotes. -/
inductive Detail where
  | number (n : Nat)
  | plain (text : Text)
  | quoted (text : Text)
  deriving Repr, DecidableEq

def Detail.written : Detail → Text
  | .number n => Text.ofNat n
  | .plain text => text
  | .quoted text => Text.shown text

def SpanKind.name : SpanKind → Text
  | .term => .ofString "Term"
  | .field => .ofString "Field"
  | .fieldValue => .ofString "FieldValue"
  | .must => .ofString "Must"
  | .mustNot => .ofString "MustNot"
  | .blank => .ofString "Whitespace"
  | .groupOpen => .ofString "GroupOpen"
  | .groupClose => .ofString "GroupClose"
  | .sigil .keyword => .ofString "Keyword"
  | .sigil .regex => .ofString "Regex"
  | .sigil .above => .ofString "UpperBound"
  | .sigil .below => .ofString "LowerBound"
  | .sigil .freeText => .ofString "SimpleQuery"

namespace Event

def level : Event → Level
  | .read _ _ => .trace
  | .groupOpened _ _ | .groupEntered _ _ | .aborted _ => .debug
  | .rejected _ => .warn

def message : Event → Text
  | .read _ _ => .ofString "commit"
  | .groupOpened _ _ => .ofString "group opened"
  | .groupEntered _ _ => .ofString "parsing group"
  | .aborted _ => .ofString "parse aborted"
  | .rejected _ => .ofString "field callback rejected value"

def details : Event → List (Text × Detail)
  | .read kind span => [(.ofString "kind", .plain kind.name), (.ofString "span", .quoted span)]
  | .groupOpened offset depth =>
    [(.ofString "offset", .number offset), (.ofString "depth", .number depth)]
  | .groupEntered body depth =>
    [(.ofString "body", .quoted body), (.ofString "depth", .number depth)]
  | .aborted failure => [(.ofString "error", .plain failure.message)]
  | .rejected rejection =>
    [(.ofString "field", .quoted rejection.field), (.ofString "value", .plain rejection.value),
      (.ofString "error", .plain rejection.reason)]

end Event

/-- What the program logs with. -/
structure Logger where
  /-- The events that a filter lets through, given its text. Not every text is a filter. -/
  filter? : Text → Option (Event → Bool)
  /-- The line of an event, given how many were written before it. It may tell the time, so the
  same event need not have the same line again. -/
  line : (position : Nat) → Event → Text

namespace Logger

/-- Whether an event is written, given the text that names a filter, if there is one. A text that is
not a filter counts as none. -/
def writes (logger : Logger) (named : Option Text) (event : Event) : Bool :=
  match named.bind logger.filter? with
  | some passes => passes event
  | none => decide (Level.warn.severity ≤ event.level.severity)

/-- The events of a log that are written. -/
def written (logger : Logger) (named : Option Text) (log : List Event) : List Event :=
  log.filter (logger.writes named)

/-- The lines that are written of a log. -/
def text (logger : Logger) (named : Option Text) (log : List Event) : Text :=
  ((logger.written named log).mapIdx logger.line).flatten

/-- A logger that tells no time. Its filters are names of levels, which let through what matters at
least as much, and `OFF`, like an empty name, lets nothing through. -/
def plain : Logger where
  filter? text :=
    let name : Text := text.map Char.toUpper
    if name.isEmpty || name = .ofString "OFF" then some fun _ => false
    else
      ([.trace, .debug, .info, .warn, .error].find? fun level : Level => level.name = name).map
        fun level event => decide (level.severity ≤ event.level.severity)
  line _ event :=
    let details := event.details.map fun (name, detail) => name ++ '=' :: detail.written
    Text.joinWords (event.level.name :: event.message :: details) ++ ['\n']

end Logger

end SearchQuery
