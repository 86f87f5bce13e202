import SearchQuery.Cursor
import SearchQuery.Term
import SearchQuery.Text.Alphanumeric
import SearchQuery.Trace

/-! # Reading a query one character at a time

A reader goes over a text from left to right. Between clauses it skips spaces and takes
note of the signs `+` and `-`; a parenthesis begins a group and anything else a term. Of a
group it looks only for the closing parenthesis, and hands the text between the
parentheses to the parser of its scope. Every stretch of text that has been dealt with is
committed and left in the log.

The steps are partial on paper only: a step has no result if a span is asked for while
the cursor is before its commit, if a parenthesis is closed that was never opened, or if
the offset of a group lies before the query.
-/

namespace SearchQuery

/-- What a text was read as. -/
structure Parsed where
  clauses : Clauses
  /-- What is wrong with the text. With a failure the clauses are those read before it. -/
  failure : Option Failure
  /-- What was done, in order. -/
  log : List Entry
  deriving Repr, DecidableEq, Inhabited

/-- What was done, whatever the depth of the text. -/
def Parsed.events (parsed : Parsed) : List Event := parsed.log.map Entry.event

/-- Where a text stands: what its meaning depends on, how many groups it is in, at which
byte of the whole query it begins, and how a group in it is parsed. -/
structure Scope where
  settings : Settings
  depth : Nat
  base : Nat
  /-- Parses the body of a group that begins at a byte of the whole query. There is no such
  parser where groups may not go deeper. -/
  enter? : Option ((base : Nat) → (body : Text) → Option Parsed)

/-- What has to be closed before a space can end the value of a term. -/
inductive Enclosure where
  | quote (mark : Char)
  | parens (depth : Nat)
  deriving Repr, DecidableEq

namespace Enclosure

/-- The enclosure after an opening parenthesis. -/
def opened : Enclosure → Enclosure
  | .quote mark => .quote mark
  | .parens depth => .parens (depth + 1)

/-- What is left of the enclosure after a closing parenthesis. -/
def closed? : Enclosure → Option Enclosure
  | .quote mark => some (.quote mark)
  | .parens (depth + 2) => some (.parens (depth + 1))
  | .parens _ => none

end Enclosure

/-- A group whose closing parenthesis is being looked for. -/
structure OpenGroup where
  occur : Occur
  offset : Nat
  /-- The number of parentheses that have to be closed. -/
  unclosed : Nat := 1
  /-- The quote character inside whose pair parentheses do not count. -/
  quote : Option Char := none
  deriving Repr, DecidableEq

inductive Mode where
  | between
  | term
  | group (group : OpenGroup)
  | done
  deriving Repr, DecidableEq

structure Reader where
  cursor : Cursor
  mode : Mode := .between
  clauses : Clauses := {}
  occur : Occur := .should
  field : Option Text := none
  kind : MatchKind := .auto
  enclosure : Option Enclosure := none
  failure : Option Failure := none
  /-- What was done, the latest first. -/
  log : List Entry := []
  deriving Repr, DecidableEq

namespace Reader

def ofText (text : Text) : Reader := { cursor := Cursor.ofText text }

def parsed (reader : Reader) : Parsed where
  clauses := reader.clauses
  failure := reader.failure
  log := reader.log.reverse

/-- Puts events into the log, in the order in which they happened. -/
def record (scope : Scope) (events : List Event) (reader : Reader) : Reader :=
  { reader with log := (events.map (Entry.mk scope.depth)).reverse ++ reader.log }

/-- Commits the span up to the cursor. -/
def commit? (scope : Scope) (kind : SpanKind) (reader : Reader) : Option Reader :=
  reader.cursor.spanText?.map fun span =>
    record scope [.read kind span] { reader with cursor := reader.cursor.commit }

/-- Reports a failure after which reading can go on. The first one counts. -/
def report (failure : Option Failure) (reader : Reader) : Reader :=
  { reader with failure := reader.failure <|> failure }

/-- Ends the reading with a failure, which counts more than any reported before. -/
def abort (scope : Scope) (failure : Failure) (reader : Reader) : Reader :=
  record scope [.aborted failure] { reader with mode := .done, failure := some failure }

/-- Adds a clause; the next one begins with nothing known about it. -/
def attach (occur : Occur) (clause : Clause) (reader : Reader) : Reader :=
  { reader with
    clauses := reader.clauses.add occur clause
    occur := .should
    field := none
    kind := .auto
    enclosure := none }

def endTerm? (scope : Scope) (reader : Reader) : Option Reader := do
  let raw ← reader.cursor.value?
  let built := scope.settings.buildTerm reader.field reader.kind raw
  let noted := reader.record scope (built.rejections.map Event.rejected)
  let committed ← noted.commit? scope (if reader.field.isSome then .fieldValue else .term)
  return { (committed.report built.failure?).attach reader.occur built.clause with
    mode := .between }

/-- Reads the sigil at the cursor, if there is one. The parenthesis of a free text query is
left to its value. -/
def readSigil? (scope : Scope) (reader : Reader) : Option Reader :=
  let (next, cursor) := reader.cursor.peek
  match next.bind Sigil.ofChar? with
  | none => some { reader with cursor }
  | some .freeText =>
    commit? scope (.sigil .freeText)
      { reader with cursor, kind := .sigil .freeText, enclosure := some (.parens 0) }
  | some sigil =>
    commit? scope (.sigil sigil) { reader with cursor := cursor.next.2, kind := .sigil sigil }

/-- Whether the character can end the name of a field. -/
def isFieldDelimiter (c : Char) : Bool := c ∈ [':', '=', '~', '<', '>']

/-- Decides what a colon or sigil just read means. The first one outside an enclosure ends
the name of a field, if there is a name before it; a colon is read with the name, a sigil
stands for a colon and itself. Every other one belongs to the value. -/
def readFieldName? (scope : Scope) (delimiter : Char) (reader : Reader) : Option Reader :=
  if reader.enclosure.isSome || reader.field.isSome then some reader
  else do
    let before := reader.cursor.backUp
    let name ← before.value?
    if name.isEmpty then
      return { reader with cursor := before.next.2 }
    let cursor := if delimiter = ':' then before.next.2 else before
    let named ← commit? scope .field { reader with cursor, field := some name }
    named.readSigil? scope

/-- The enclosure after a quote character. It opens a quoted literal only as the first
character of a value, and closes the one that it opened. -/
def quoteInTerm (atStart : Bool) (mark : Char) : Option Enclosure → Option Enclosure
  | some (.quote opening) => if opening = mark then none else some (.quote opening)
  | some (.parens depth) => some (.parens depth)
  | none => if atStart then some (.quote mark) else none

/-- The open quote after a quote character inside a group. After a letter or number it is an
apostrophe and opens nothing. -/
def quoteInGroup (previous : Option Char) (mark : Char) : Option Char → Option Char
  | some opening => if opening = mark then none else some opening
  | none => if previous.any Text.isAlphanumeric then none else some mark

def stepBetween? (scope : Scope) (reader : Reader) : Option Reader :=
  let (next, cursor) := reader.cursor.next
  let ahead := { reader with cursor }
  match next with
  | none => some { ahead with mode := .done }
  | some ' ' => ahead.commit? scope .blank
  | some '\\' => some { ahead with cursor := cursor.next.2 }
  | some '+' => commit? scope .must { ahead with occur := .must }
  | some '-' => commit? scope .mustNot { ahead with occur := .mustNot }
  | some '(' =>
    match scope.base + cursor.pos with
    | 0 => none
    | offset + 1 =>
      (ahead.commit? scope .groupOpen).map fun committed =>
        record scope [.groupOpened offset (scope.depth + 1)]
          { committed with mode := .group { occur := reader.occur, offset } }
  | some _ => some { ahead with cursor := cursor.backUp, mode := .term }

def stepTerm? (scope : Scope) (reader : Reader) : Option Reader :=
  let (next, cursor) := reader.cursor.next
  let ahead := { reader with cursor }
  match next with
  | none => ahead.endTerm? scope
  | some '\\' => some { ahead with cursor := cursor.next.2 }
  | some '(' => some { ahead with enclosure := reader.enclosure.map Enclosure.opened }
  | some ')' => some { ahead with enclosure := reader.enclosure.bind Enclosure.closed? }
  | some ' ' => if reader.enclosure.isNone then ahead.endTerm? scope else some ahead
  | some c =>
    if Text.isQuote c then
      some { ahead with enclosure := quoteInTerm reader.cursor.atSpanStart c reader.enclosure }
    else if isFieldDelimiter c then ahead.readFieldName? scope c
    else some ahead

/-- Ends a group whose closing parenthesis has just been read. -/
def endGroup? (scope : Scope) (occur : Occur) (reader : Reader) : Option Reader := do
  let before := { reader with cursor := reader.cursor.backUp }
  let body ← before.cursor.spanText?
  match scope.enter? with
  | none => return before.abort scope (.nestedTooDeep scope.settings.maxDepth)
  | some enter =>
    let entered := before.record scope [.groupEntered body (scope.depth + 1)]
    let inner ← enter (scope.base + before.cursor.start) body
    let left := { entered with log := inner.log.reverse ++ entered.log }
    match inner.failure with
    | some (.rejected rejection) =>
      leave ((left.report (some (.rejected rejection))).attach occur inner.clauses.toClause)
    | some fatal => return left.abort scope fatal
    | none => leave (left.attach occur inner.clauses.toClause)
where
  /-- Reads the closing parenthesis for good. -/
  leave (attached : Reader) : Option Reader :=
    commit? scope .groupClose
      { attached with cursor := attached.cursor.next.2, mode := .between }

def stepGroup? (scope : Scope) (group : OpenGroup) (reader : Reader) : Option Reader :=
  let (next, cursor) := reader.cursor.next
  let ahead := { reader with cursor }
  match next with
  | none => some (ahead.abort scope (.unclosedGroup group.offset))
  | some '\\' => some { ahead with cursor := cursor.next.2 }
  | some '(' =>
    if group.quote.isSome then some ahead
    else some { ahead with mode := .group { group with unclosed := group.unclosed + 1 } }
  | some ')' =>
    if group.quote.isSome then some ahead
    else
      match group.unclosed with
      | 0 => none
      | 1 => ahead.endGroup? scope group.occur
      | unclosed + 2 => some { ahead with mode := .group { group with unclosed := unclosed + 1 } }
  | some c =>
    if Text.isQuote c then
      some { ahead with mode := .group { group with
        quote := quoteInGroup reader.cursor.previous? c group.quote } }
    else some ahead

/-- One step. A reader that is done stays as it is. -/
def step? (scope : Scope) (reader : Reader) : Option Reader :=
  match reader.mode with
  | .between => reader.stepBetween? scope
  | .term => reader.stepTerm? scope
  | .group group => reader.stepGroup? scope group
  | .done => some reader

end Reader

end SearchQuery
