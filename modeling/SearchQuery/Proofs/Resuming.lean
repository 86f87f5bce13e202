import SearchQuery.Proofs.Framing
import SearchQuery.Proofs.Reading

/-! # Reading on

Behind a commit a reader goes on like one that begins there and knows as much of the next clause.
What it has committed and what it has parsed are a frame of the text that is left. So what comes
behind a clause is read as a query of its own.
-/

namespace SearchQuery.Reader

variable {settings : Settings} {depth base base' bytes : Nat} {clauses : Clauses}
  {failure : Option Failure} {before rest : Text} {parsed : Parsed} {reader : Reader}

/-- What a reader has come to, around the text that is left to it. -/
def resumed (bytes : Nat) (reader : Reader) : Frame where
  before := reader.cursor.committed
  earlier := reader.parsed
  shift := { bytes }

/-- A reader that begins with the text that is left, and knows as much of the next clause. -/
def restart (reader : Reader) : Reader :=
  { ofText reader.cursor.rest with
    mode := reader.mode, occur := reader.occur, field := reader.field, kind := reader.kind
    enclosure := reader.enclosure }

theorem regular_restart (outside : ∀ group, reader.mode ≠ .group group) :
    reader.restart.Regular where
  sound := ⟨rfl, fun group mode => absurd mode (outside group)⟩
  begun group mode := absurd mode (outside group)
  unbroken := .inr nofun

theorem framed_restart (bytes : Nat) (outside : ∀ group, reader.mode ≠ .group group)
    (span : reader.cursor.spanText? = some []) :
    reader.restart.Framed (resumed bytes reader) reader := by
  have noSpan : reader.cursor.span? = some [] := by simpa [Cursor.spanText?] using span
  have mode : reader.mode = reader.mode.shifted { bytes } := by
    cases isMode : reader.mode with
    | group group => exact absurd isMode (outside group)
    | between | term | done => rfl
  exact
    { cursor := ⟨rfl, noSpan, (List.append_nil _).symm⟩, mode, occur := rfl, field := rfl
      kind := rfl, enclosure := rfl, parsed := (Parsed.joined_empty _).symm }

/-- A reader comes to what it has come to so far and what the text that is left is read as. -/
theorem run?_of_restart (outside : ∀ group, reader.mode ≠ .group group)
    (span : reader.cursor.spanText? = some [])
    (place : base' + Text.byteSize reader.cursor.committed = base + bytes)
    (ran : reader.restart.run? (settings.scope depth base) = some parsed) :
    reader.run? (settings.scope depth base') =
      some (reader.parsed.joined (parsed.shifted { bytes })) :=
  @Regular.run?_inFrame settings depth base base' (resumed bytes reader) reader.restart reader parsed
    rfl place (groupsShifted settings _ depth) (regular_restart outside)
    (framed_restart bytes outside span) ran

theorem byteSize_committed_of_span
    (reached : Reaches (settings.scope depth base) (ofText (before ++ rest)) reader)
    (span : reader.cursor.spanText? = some []) (isRest : reader.cursor.rest = rest) :
    Text.byteSize reader.cursor.committed = Text.byteSize before := by
  have whole := (Cursor.text_of_spanText? span).symm.trans (Cursor.text_of_lawful reached.lawful)
  rw [isRest, List.append_nil, List.append_cancel_right_eq] at whole
  rw [← whole, Text.byteSize_reverse]

theorem Ready.restart_eq (ready : reader.Ready clauses failure .should rest) :
    reader.restart = ofText rest := by
  rw [restart, ready.mode, ready.occur, ready.field, ready.kind, ready.enclosure, ready.rest]
  rfl

/-- What is left after a clause is read as a text of its own. -/
theorem Ready.parseAt_eq
    (reached : Reaches (settings.scope depth base) (ofText (before ++ rest)) reader)
    (ready : reader.Ready clauses failure .should rest) :
    parseAt settings depth base (before ++ rest) =
      reader.parsed.joined ((parseAt settings depth base rest).shifted
        { bytes := Text.byteSize before }) := by
  have ran := run?_scope settings depth base rest
  rw [← ready.restart_eq] at ran
  have outside : ∀ group, reader.mode ≠ .group group := by
    rw [ready.mode]
    rintro group ⟨⟩
  have place := congrArg (base + ·) (byteSize_committed_of_span reached ready.span ready.rest)
  have whole := reached.run?_eq
  rw [run?_scope] at whole
  exact Option.some.inj (whole.trans (run?_of_restart outside ready.span place ran))

end SearchQuery.Reader
