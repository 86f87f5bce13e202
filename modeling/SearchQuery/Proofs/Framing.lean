import SearchQuery.Proofs.Shift

/-! # Reading a text inside of another

What a reader does depends on the text between its last commit and the next sigil, and not on what
stands before and behind. So the moves over a text are the same wherever the text stands, and what
is parsed from it is the same but for the places and levels that it names.
-/

namespace SearchQuery

/-- What is around a text that is read as a part of another. -/
structure Frame where
  /-- The text before, last character first. -/
  before : Text := []
  behind : Text := []
  /-- What was parsed from the text before. -/
  earlier : Parsed := .empty
  shift : Shift := {}

/-- The cursor stands in the frame as it does in the text alone. -/
structure Cursor.Framed (frame : Frame) (cursor framed : Cursor) : Prop where
  committed : framed.committed = cursor.committed ++ frame.before
  span : framed.span? = cursor.span?
  rest : framed.rest = cursor.rest ++ frame.behind

namespace Cursor.Framed

variable {frame : Frame} {cursor framed : Cursor} (isFramed : cursor.Framed frame framed)

include isFramed

theorem head? {c : Char} (atCursor : cursor.rest.head? = some c) : framed.rest.head? = some c := by
  rw [isFramed.rest, List.head?_append, atCursor, Option.some_or]

theorem rest_eq_nil (alone : frame.behind = []) (atEnd : cursor.rest = []) : framed.rest = [] := by
  rw [isFramed.rest, atEnd, alone, List.append_nil]

theorem next (free : frame.behind = [] ∨ cursor.rest ≠ []) :
    cursor.next.2.Framed frame framed.next.2 := by
  obtain ⟨committed, span, rest, canBackUp⟩ := cursor
  obtain ⟨committed', span', rest', canBackUp'⟩ := framed
  obtain ⟨isCommitted, isSpan, isRest⟩ := isFramed
  simp only at isCommitted isSpan isRest
  subst isCommitted isSpan isRest
  cases rest with
  | nil =>
      have alone : frame.behind = [] := free.resolve_right (absurd rfl)
      rw [alone]
      cases span' <;> exact ⟨rfl, rfl, alone.symm⟩
  | cons c rest => cases span' <;> exact ⟨rfl, rfl, rfl⟩

theorem commit : cursor.commit.Framed frame framed.commit where
  committed := by simp [Cursor.commit, isFramed.committed, isFramed.span]
  span := rfl
  rest := isFramed.rest

theorem still : ({ cursor with canBackUp := false } : Cursor).Framed frame
    { framed with canBackUp := false } where
  committed := isFramed.committed
  span := isFramed.span
  rest := isFramed.rest

theorem spanText? : framed.spanText? = cursor.spanText? := by
  rw [Cursor.spanText?, Cursor.spanText?, isFramed.span]

theorem value? : framed.value? = cursor.value? := by
  rw [Cursor.value?, Cursor.value?, isFramed.spanText?]

theorem atSpanStart : framed.atSpanStart = cursor.atSpanStart := by
  rw [Cursor.atSpanStart, Cursor.atSpanStart, isFramed.span]

theorem pos : framed.pos = cursor.pos + Text.byteSize frame.before := by
  rw [Cursor.pos, Cursor.pos, isFramed.committed, isFramed.span, Text.byteSize_append]
  omega

theorem start (known : cursor.span?.isSome) :
    framed.start = cursor.start + Text.byteSize frame.before := by
  obtain ⟨span, isSpan⟩ := Option.isSome_iff_exists.1 known
  rw [Cursor.start, Cursor.start, isFramed.span, isFramed.committed, isSpan, Text.byteSize_append]

theorem previous? (begun : cursor.committed ≠ []) : framed.previous? = cursor.previous? := by
  obtain ⟨last, others, isCommitted⟩ := List.exists_cons_of_ne_nil begun
  rw [Cursor.previous?, Cursor.previous?, isFramed.span, isFramed.committed, isCommitted]
  rfl

end Cursor.Framed

def OpenGroup.shifted (shift : Shift) (group : OpenGroup) : OpenGroup :=
  { group with offset := group.offset + shift.bytes }

theorem OpenGroup.shifted_after (shift : Shift) (previous : Option Char) (c : Char)
    (group : OpenGroup) :
    (group.after previous c).shifted shift = (group.shifted shift).after previous c := by
  simp only [after, apply_ite (OpenGroup.shifted shift)]
  rfl

def Mode.shifted (shift : Shift) : Mode → Mode
  | .group opened => .group (opened.shifted shift)
  | mode => mode

namespace Reader

/-- The reader goes on in the frame as it does with the text alone. -/
structure Framed (frame : Frame) (reader framed : Reader) : Prop where
  cursor : reader.cursor.Framed frame framed.cursor
  mode : framed.mode = reader.mode.shifted frame.shift
  occur : framed.occur = reader.occur
  field : framed.field = reader.field
  kind : framed.kind = reader.kind
  enclosure : framed.enclosure = reader.enclosure
  parsed : framed.parsed = frame.earlier.joined (reader.parsed.shifted frame.shift)

end Reader

/-- The scope of a text in a frame that begins at byte `base` of the whole query. -/
def Frame.scope (frame : Frame) (settings : Settings) (depth base : Nat) : Scope :=
  (settings.shifted frame.shift).scope (depth + frame.shift.levels) base

namespace Reader.Framed

variable {settings : Settings} {depth base base' : Nat} {frame : Frame} {reader framed : Reader}
  (isFramed : reader.Framed frame framed)

include isFramed

theorem ahead (free : frame.behind = [] ∨ reader.cursor.rest ≠ []) :
    reader.ahead.Framed frame framed.ahead :=
  { isFramed with cursor := isFramed.cursor.next free }

theorem still : reader.still.Framed frame framed.still :=
  { isFramed with cursor := isFramed.cursor.still }

theorem withMode (mode : Mode) :
    ({ reader with mode } : Reader).Framed frame { framed with mode := mode.shifted frame.shift } :=
  { isFramed with mode := rfl }

theorem record {events : List Event} :
    (reader.record (settings.scope depth base) events).Framed frame
      (framed.record (frame.scope settings depth base') (events.map (Event.shifted frame.shift))) :=
  { isFramed with
    parsed := by
      rw [parsed_record, parsed_record, isFramed.parsed, Parsed.shifted_recording,
        Parsed.joined_recording]
      rfl }

theorem committing (kind : SpanKind) (span : Text) :
    (reader.committing (settings.scope depth base) kind span).Framed frame
      (framed.committing (frame.scope settings depth base') kind span) := by
  have committed : ({ reader with cursor := reader.cursor.commit } : Reader).Framed frame
      { framed with cursor := framed.cursor.commit } :=
    { isFramed with cursor := isFramed.cursor.commit }
  exact committed.record

theorem sigilled
    (plain : reader.cursor.rest = [] → frame.behind.head?.bind Sigil.ofChar? = none) :
    (reader.sigilled (settings.scope depth base)).Framed frame
      (framed.sigilled (frame.scope settings depth base')) := by
  -- What comes behind the name of a field is looked at only for a sigil.
  cases atCursor : reader.cursor.rest with
  | nil =>
      have nothing : framed.cursor.rest = frame.behind := by
        rw [isFramed.cursor.rest, atCursor, List.nil_append]
      rw [Reader.sigilled, Reader.sigilled, atCursor, nothing, plain atCursor]
      exact isFramed.still
  | cons c rest =>
      have there : framed.cursor.rest = c :: (rest ++ frame.behind) := by
        rw [isFramed.cursor.rest, atCursor, List.cons_append]
      have ahead := isFramed.ahead (.inr (by rw [atCursor]; exact List.cons_ne_nil _ _))
      rw [Reader.sigilled, Reader.sigilled, atCursor, there]
      simp only [List.head?_cons, Option.bind_some, List.take_succ_cons, List.take_zero]
      cases Sigil.ofChar? c with
      | none => exact isFramed.still
      | some sigil =>
          have valued : ({ reader.ahead with kind := .sigil sigil } : Reader).Framed frame
              { framed.ahead with kind := .sigil sigil } := { ahead with kind := rfl }
          have inParens : ({ reader.still with
              kind := .sigil sigil, enclosure := some (.parens 0) } : Reader).Framed frame
              { framed.still with kind := .sigil sigil, enclosure := some (.parens 0) } :=
            { isFramed.still with kind := rfl, enclosure := rfl }
          cases sigil with
          | freeText => exact inParens.committing _ _
          | keyword | regex | above | below => exact valued.committing _ _

theorem abort {fatal : Failure} (isFatal : fatal.isFatal) :
    (reader.abort (settings.scope depth base) fatal).Framed frame
      (framed.abort (frame.scope settings depth base') (fatal.shifted frame.shift)) :=
  { isFramed with
    mode := rfl
    parsed := by
      rw [parsed_abort, parsed_abort, isFramed.parsed, Parsed.shifted_aborting,
        Parsed.joined_aborting (by rwa [Failure.isFatal_shifted])]
      rfl }

theorem attach (unbroken : reader.parsed.Unbroken) (occur : Occur) (clause : Clause)
    {failure : Option Failure} (notFatal : ∀ fatal, failure = some fatal → fatal.isFatal = false) :
    ((reader.report failure).attach occur clause).Framed frame
      ((framed.report (failure.map (Failure.shifted frame.shift))).attach occur clause) where
  cursor := isFramed.cursor
  mode := isFramed.mode
  occur := rfl
  field := rfl
  kind := rfl
  enclosure := rfl
  parsed := by
    have adding : ∀ (failure : Option Failure) (reader : Reader),
        ((reader.report failure).attach occur clause).parsed =
          reader.parsed.adding occur clause failure := fun _ _ => rfl
    rw [adding, adding, isFramed.parsed, Parsed.shifted_adding,
      Parsed.joined_adding unbroken.shifted (not_fatal_map_shifted notFatal)]

theorem endingTerm (unbroken : reader.parsed.Unbroken) (span : Text) :
    (reader.endingTerm (settings.scope depth base) span).Framed frame
      (framed.endingTerm (frame.scope settings depth base') span) := by
  generalize isBuilt : settings.buildTerm reader.field reader.kind (Text.trim span) = built
  generalize isKind : (if reader.field.isSome then SpanKind.fieldValue else .term) = kind
  have noted := @record settings depth base base' frame reader framed isFramed
    (built.rejections.map Event.rejected)
  rw [Event.map_shifted_rejected] at noted
  have committed := @committing settings depth base base' frame _ _ noted kind span
  have attached := committed.attach unbroken reader.occur built.clause built.not_fatal
  rw [BuiltTerm.map_shifted_failure?] at attached
  have ended := attached.withMode .between
  subst isBuilt isKind
  rw [Reader.endingTerm, Reader.endingTerm, isFramed.field, isFramed.kind, isFramed.occur]
  exact ended

theorem entering (body : Text) (inner : Parsed) :
    (reader.entering (settings.scope depth base) body inner).Framed frame
      (framed.entering (frame.scope settings depth base') body (inner.shifted frame.shift)) :=
  { isFramed with
    parsed := by
      rw [parsed_entering, parsed_entering, isFramed.parsed, Parsed.shifted_entering,
        Parsed.joined_entering]
      rfl }

theorem leaving (free : frame.behind = [] ∨ reader.cursor.rest ≠ [])
    (unbroken : reader.parsed.Unbroken) (occur : Occur) (body : Text) {inner : Parsed}
    (notFatal : inner.Unbroken) :
    (reader.leaving (settings.scope depth base) occur body inner).Framed frame
      (framed.leaving (frame.scope settings depth base') occur body
        (inner.shifted frame.shift)) := by
  have entered := @entering settings depth base base' frame reader framed isFramed body inner
  have attached := (entered.attach unbroken occur inner.clauses.toClause notFatal).ahead free
  exact (attached.withMode .between).committing _ _

end Reader.Framed

namespace Reader

/-- Whether the groups in a text are parsed alike wherever it stands. -/
def GroupsShifted (settings : Settings) (depth : Nat) (shift : Shift) : Prop :=
  depth < settings.maxDepth → ∀ first body,
    parseAt (settings.shifted shift) (depth + shift.levels + 1) (first + shift.bytes) body =
      (parseAt settings (depth + 1) first body).shifted shift

/-- Whether the next move of a reader does not reach what is behind the text. A backslash takes the
next character with it, and a colon behind a name looks for a sigil. -/
def Within (frame : Frame) (reader : Reader) : Prop :=
  frame.behind = [] ∨ reader.cursor.rest ≠ [] ∧ reader.cursor.rest ≠ ['\\'] ∧
    (reader.mode = .term → reader.cursor.rest = [':'] →
      frame.behind.head?.bind Sigil.ofChar? = none)

variable {settings : Settings} {depth base base' : Nat} {frame : Frame}
  {before after framed : Reader}

theorem Framed.entered {body : Text} (isFramed : before.Framed frame framed)
    (place : base' + Text.byteSize frame.before = base + frame.shift.bytes)
    (alike : GroupsShifted settings depth frame.shift)
    (known : before.cursor.spanText? = some body) (allowed : depth < settings.maxDepth) :
    let enter := fun first body =>
      some (parseAt (settings.shifted frame.shift) (depth + frame.shift.levels + 1) first body)
    (frame.scope settings depth base').enter? = some enter ∧
      enter (base' + framed.cursor.start) body =
        some ((parseAt settings (depth + 1) (base + before.cursor.start) body).shifted
          frame.shift) := by
  intro enter
  have stillAllowed : depth + frame.shift.levels < settings.maxDepth + frame.shift.levels :=
    Nat.add_lt_add_right allowed _
  have there : before.cursor.span?.isSome := Cursor.isSome_span?_of_spanText? known
  have first : base' + framed.cursor.start = base + before.cursor.start + frame.shift.bytes := by
    rw [isFramed.cursor.start there]
    omega
  refine ⟨enter?_scope_of_lt stillAllowed, ?_⟩
  rw [first]
  exact congrArg some (alike allowed _ body)

theorem Within.free (within : before.Within frame) : frame.behind = [] ∨ before.cursor.rest ≠ [] :=
  within.imp id And.left

theorem Within.free_ahead (within : before.Within frame)
    (atCursor : before.cursor.rest.head? = some '\\') :
    frame.behind = [] ∨ before.ahead.cursor.rest ≠ [] := by
  -- A backslash takes the next character with it, so that is in the text, too.
  refine within.imp id fun ⟨_, notLast, _⟩ atEnd => notLast ?_
  obtain ⟨rest, isRest⟩ := List.head?_eq_some_iff.1 atCursor
  rw [isRest, ← Cursor.rest_next_of_cons isRest]
  exact congrArg _ atEnd

/-- Behind the name of a field the text goes on, or no sigil is behind the text: a sigil that ends the
name is itself in front of the cursor. -/
theorem Within.no_sigil_behind {c : Char} {named : Reader} (within : before.Within frame)
    (mode : before.mode = .term) (atCursor : before.cursor.rest.head? = some c)
    (spot : named = if c = ':' then before.ahead else before.still)
    (atEnd : named.cursor.rest = []) : frame.behind.head?.bind Sigil.ofChar? = none := by
  obtain ⟨rest, isRest⟩ := List.head?_eq_some_iff.1 atCursor
  by_cases isColon : c = ':'
  · rw [spot, if_pos isColon] at atEnd
    have last : before.cursor.rest = [':'] := by
      rw [isRest, isColon, ← Cursor.rest_next_of_cons isRest]
      exact congrArg _ atEnd
    rcases within with alone | ⟨-, -, plain⟩
    · rw [alone]
      rfl
    · exact plain mode last
  · rw [spot, if_neg isColon] at atEnd
    cases isRest.symm.trans atEnd

/-- Whether a reader in a frame can move to where the reader of the text alone has come to. -/
def MovesTo (settings : Settings) (depth base' : Nat) (frame : Frame) (framed after : Reader) : Prop :=
  ∃ next, Move (frame.scope settings depth base') framed next ∧ after.Framed frame next

/-! ### The moves in a frame -/

section

variable (isFramed : before.Framed frame framed)

include isFramed

theorem Framed.mode_eq {mode : Mode} (isMode : before.mode = mode) :
    framed.mode = mode.shifted frame.shift := isFramed.mode.trans (congrArg _ isMode)

theorem Framed.escape (within : before.Within frame) (running : before.mode ≠ .done)
    (atCursor : before.cursor.rest.head? = some '\\') :
    MovesTo settings depth base' frame framed before.ahead.ahead := by
  have stillRunning : framed.mode ≠ .done := by
    rw [isFramed.mode]
    cases mode : before.mode with
    | done => exact absurd mode running
    | between | term | group => exact nofun
  exact ⟨_, .escape stillRunning (isFramed.cursor.head? atCursor),
    (isFramed.ahead within.free).ahead (within.free_ahead atCursor)⟩

theorem Framed.mark {c : Char} {kind : SpanKind} {occur : Occur} {span : Text}
    (within : before.Within frame) (mode : before.mode = .between)
    (atCursor : before.cursor.rest.head? = some c) (mark : Mark before.occur c kind occur)
    (known : before.ahead.cursor.spanText? = some span) :
    MovesTo settings depth base' frame framed
      (Reader.committing (settings.scope depth base) kind span { before.ahead with occur }) := by
  have ahead := isFramed.ahead within.free
  have signed : ({ before.ahead with occur } : Reader).Framed frame { framed.ahead with occur } :=
    { ahead with occur := rfl }
  rw [← isFramed.occur] at mark
  exact ⟨_, .mark (isFramed.mode_eq mode) (isFramed.cursor.head? atCursor) mark
    (ahead.cursor.spanText?.trans known), signed.committing _ _⟩

theorem Framed.openGroup {span : Text} {offset : Nat}
    (place : base' + Text.byteSize frame.before = base + frame.shift.bytes)
    (within : before.Within frame) (mode : before.mode = .between)
    (atCursor : before.cursor.rest.head? = some '(')
    (known : before.ahead.cursor.spanText? = some span)
    (isOffset : base + before.ahead.cursor.pos = offset + 1) :
    MovesTo settings depth base' frame framed
      (Reader.record (settings.scope depth base) [.groupOpened offset (depth + 1)]
        { Reader.committing (settings.scope depth base) .groupOpen span before.ahead with
          mode := .group { occur := before.occur, offset } }) := by
  have ahead := isFramed.ahead within.free
  -- The place is counted from the beginning of the whole text, and so moves with the frame.
  have isPos : (frame.scope settings depth base').base + framed.ahead.cursor.pos =
      offset + frame.shift.bytes + 1 := by
    simp only [Frame.scope, Settings.scope, ahead.cursor.pos]
    omega
  have level : (frame.scope settings depth base').depth + 1 = depth + 1 + frame.shift.levels :=
    Nat.add_right_comm _ _ _
  refine ⟨_, .openGroup (isFramed.mode_eq mode) (isFramed.cursor.head? atCursor)
    (ahead.cursor.spanText?.trans known) isPos, ?_⟩
  rw [level, isFramed.occur]
  exact ((ahead.committing .groupOpen span).withMode (.group { occur := before.occur, offset })).record

theorem Framed.content {c : Char} (within : before.Within frame) (mode : before.mode = .term)
    (atCursor : before.cursor.rest.head? = some c) (notEscape : c ≠ '\\')
    (spaceInside : c = ' ' → before.enclosure.isSome)
    (delimiterInside : isFieldDelimiter c →
      before.enclosure.isSome ∨ before.field.isSome ∨ before.cursor.value? = some []) :
    MovesTo settings depth base' frame framed
      { before.ahead with
        enclosure := Enclosure.after before.cursor.atSpanStart c before.enclosure } := by
  rw [← isFramed.enclosure] at spaceInside delimiterInside
  rw [← isFramed.field, ← isFramed.cursor.value?] at delimiterInside
  refine ⟨_, .content (isFramed.mode_eq mode) (isFramed.cursor.head? atCursor) notEscape spaceInside
    delimiterInside, ?_⟩
  rw [isFramed.cursor.atSpanStart, isFramed.enclosure]
  exact { isFramed.ahead within.free with enclosure := rfl }

theorem Framed.name {c : Char} {name span : Text} {named : Reader} (within : before.Within frame)
    (mode : before.mode = .term) (atCursor : before.cursor.rest.head? = some c)
    (delimiter : isFieldDelimiter c) (outside : before.enclosure = none)
    (noField : before.field = none) (value : before.cursor.value? = some name) (nonempty : name ≠ [])
    (spot : named = if c = ':' then before.ahead else before.still)
    (known : named.cursor.spanText? = some span) :
    MovesTo settings depth base' frame framed
      ((Reader.committing (settings.scope depth base) .field span
        { named with field := some name }).sigilled (settings.scope depth base)) := by
  have spotFramed : named.Framed frame (if c = ':' then framed.ahead else framed.still) := by
    rw [spot]
    split
    · exact isFramed.ahead within.free
    · exact isFramed.still
  have namedFramed : ({ named with field := some name } : Reader).Framed frame
      { (if c = ':' then framed.ahead else framed.still) with field := some name } :=
    { spotFramed with field := rfl }
  refine ⟨_, .name (isFramed.mode_eq mode) (isFramed.cursor.head? atCursor) delimiter
    (isFramed.enclosure.trans outside) (isFramed.field.trans noField)
    (isFramed.cursor.value?.trans value) nonempty rfl (spotFramed.cursor.spanText?.trans known), ?_⟩
  exact (namedFramed.committing .field span).sigilled fun atEnd =>
    within.no_sigil_behind mode atCursor spot atEnd

theorem Framed.endTerm {span : Text} (within : before.Within frame)
    (unbroken : before.parsed.Unbroken) (mode : before.mode = .term)
    (atEnd : before.cursor.rest = [] ∨
      before.cursor.rest.head? = some ' ' ∧ before.enclosure = none)
    (known : before.ahead.cursor.spanText? = some span) :
    MovesTo settings depth base' frame framed
      (before.ahead.endingTerm (settings.scope depth base) span) := by
  have stillAtEnd : framed.cursor.rest = [] ∨
      framed.cursor.rest.head? = some ' ' ∧ framed.enclosure = none := by
    rcases atEnd with atEnd | ⟨atSpace, outside⟩
    · exact .inl (isFramed.cursor.rest_eq_nil (within.free.resolve_right (absurd atEnd)) atEnd)
    · exact .inr ⟨isFramed.cursor.head? atSpace, isFramed.enclosure.trans outside⟩
  have ahead := isFramed.ahead within.free
  exact ⟨_, .endTerm (isFramed.mode_eq mode) stillAtEnd (ahead.cursor.spanText?.trans known),
    ahead.endingTerm unbroken span⟩

theorem Framed.inside {group : OpenGroup} {c : Char} (within : before.Within frame)
    (begun : before.cursor.committed ≠ []) (mode : before.mode = .group group)
    (atCursor : before.cursor.rest.head? = some c) (notEscape : c ≠ '\\')
    (positive : 0 < group.unclosed) (notClosing : ¬ group.Closes c) :
    MovesTo settings depth base' frame framed
      { before.ahead with mode := .group (group.after before.cursor.previous? c) } := by
  refine ⟨_, .inside (isFramed.mode_eq mode) (isFramed.cursor.head? atCursor) notEscape positive
    notClosing, ?_⟩
  rw [isFramed.cursor.previous? begun, ← OpenGroup.shifted_after]
  exact (isFramed.ahead within.free).withMode (.group (group.after before.cursor.previous? c))

theorem Framed.tooDeep {group : OpenGroup} (mode : before.mode = .group group)
    (atCursor : before.cursor.rest.head? = some ')') (closes : group.Closes ')')
    (atLimit : (settings.scope depth base).enter? = none) (known : before.cursor.span?.isSome) :
    MovesTo settings depth base' frame framed
      (before.still.abort (settings.scope depth base) (.nestedTooDeep settings.maxDepth)) := by
  have stillAtLimit : (frame.scope settings depth base').enter? = none :=
    enter?_scope_of_le (Nat.add_le_add_right (le_of_enter?_eq_none atLimit) _)
  rw [← isFramed.cursor.span] at known
  exact ⟨_, .tooDeep (isFramed.mode_eq mode) (isFramed.cursor.head? atCursor) closes stillAtLimit known,
    isFramed.still.abort rfl⟩

theorem Framed.failInside {group : OpenGroup} {body : Text} {enter : Nat → Text → Option Parsed}
    {inner : Parsed} {fatal : Failure}
    (place : base' + Text.byteSize frame.before = base + frame.shift.bytes)
    (alike : GroupsShifted settings depth frame.shift) (mode : before.mode = .group group)
    (atCursor : before.cursor.rest.head? = some ')') (closes : group.Closes ')')
    (allowed : (settings.scope depth base).enter? = some enter)
    (known : before.cursor.spanText? = some body)
    (entered : enter (base + before.cursor.start) body = some inner)
    (failed : inner.failure = some fatal) (isFatal : fatal.isFatal) :
    MovesTo settings depth base' frame framed
      ((before.still.entering (settings.scope depth base) body inner).abort
        (settings.scope depth base) fatal) := by
  obtain ⟨allowed, isInner⟩ := eq_parseAt_of_enter allowed entered
  obtain ⟨stillAllowed, stillEntered⟩ := isFramed.entered place alike known allowed
  subst isInner
  have stillFailed := congrArg (Option.map (Failure.shifted frame.shift)) failed
  refine ⟨_, .failInside (isFramed.mode_eq mode) (isFramed.cursor.head? atCursor) closes stillAllowed
    (isFramed.cursor.spanText?.trans known) stillEntered stillFailed ?_, ?_⟩
  · rwa [Failure.isFatal_shifted]
  · exact (isFramed.still.entering body _).abort isFatal

theorem Framed.closeGroup {group : OpenGroup} {body : Text} {enter : Nat → Text → Option Parsed}
    {inner : Parsed} (place : base' + Text.byteSize frame.before = base + frame.shift.bytes)
    (alike : GroupsShifted settings depth frame.shift) (within : before.Within frame)
    (unbroken : before.parsed.Unbroken) (mode : before.mode = .group group)
    (atCursor : before.cursor.rest.head? = some ')') (closes : group.Closes ')')
    (allowed : (settings.scope depth base).enter? = some enter)
    (known : before.cursor.spanText? = some body)
    (entered : enter (base + before.cursor.start) body = some inner) (notFatal : inner.Unbroken) :
    MovesTo settings depth base' frame framed
      (before.still.leaving (settings.scope depth base) group.occur body inner) := by
  obtain ⟨allowed, isInner⟩ := eq_parseAt_of_enter allowed entered
  obtain ⟨stillAllowed, stillEntered⟩ := isFramed.entered place alike known allowed
  subst isInner
  exact ⟨_, .closeGroup (isFramed.mode_eq mode) (isFramed.cursor.head? atCursor) closes stillAllowed
    (isFramed.cursor.spanText?.trans known) stillEntered notFatal.shifted,
    isFramed.still.leaving within.free unbroken group.occur body notFatal⟩

end

/-- A reader in a frame moves as it does with the text alone. -/
theorem Move.inFrame (place : base' + Text.byteSize frame.before = base + frame.shift.bytes)
    (alike : GroupsShifted settings depth frame.shift)
    (within : before.Within frame)
    (begun : ∀ group, before.mode = .group group → before.cursor.committed ≠ [])
    (unbroken : before.parsed.Unbroken) (isFramed : before.Framed frame framed)
    (move : Move (settings.scope depth base) before after) :
    MovesTo settings depth base' frame framed after := by
  have ahead := isFramed.ahead within.free
  cases move with
  | finish mode atEnd =>
      have alone := within.free.resolve_right (absurd atEnd)
      exact ⟨_, .finish (isFramed.mode_eq mode) (isFramed.cursor.rest_eq_nil alone atEnd),
        ahead.withMode .done⟩
  | escape running atCursor => exact isFramed.escape within running atCursor
  | mark mode atCursor mark known => exact isFramed.mark within mode atCursor mark known
  | openGroup mode atCursor known isOffset =>
      exact isFramed.openGroup place within mode atCursor known isOffset
  | beginTerm mode atCursor other =>
      exact ⟨_, .beginTerm (isFramed.mode_eq mode) (isFramed.cursor.head? atCursor) other,
        isFramed.still.withMode .term⟩
  | content mode atCursor notEscape spaceInside delimiterInside =>
      exact isFramed.content within mode atCursor notEscape spaceInside delimiterInside
  | name mode atCursor delimiter outside noField value nonempty spot known =>
      exact isFramed.name within mode atCursor delimiter outside noField value nonempty spot known
  | endTerm mode atEnd known => exact isFramed.endTerm within unbroken mode atEnd known
  | unclosed mode atEnd =>
      have alone := within.free.resolve_right (absurd atEnd)
      exact ⟨_, .unclosed (isFramed.mode_eq mode) (isFramed.cursor.rest_eq_nil alone atEnd),
        ahead.abort rfl⟩
  | inside mode atCursor notEscape positive notClosing =>
      exact isFramed.inside within (begun _ mode) mode atCursor notEscape positive notClosing
  | tooDeep mode atCursor closes atLimit known =>
      exact isFramed.tooDeep mode atCursor closes atLimit known
  | failInside mode atCursor closes allowed known entered failed isFatal =>
      exact isFramed.failInside place alike mode atCursor closes allowed known entered failed isFatal
  | closeGroup mode atCursor closes allowed known entered notFatal =>
      exact isFramed.closeGroup place alike within unbroken mode atCursor closes allowed known entered
        notFatal

/-- What holds of every reader of a text, wherever the reading begins. -/
structure Regular (reader : Reader) : Prop where
  sound : reader.Sound
  begun : ∀ group, reader.mode = .group group → reader.cursor.committed ≠ []
  unbroken : reader.mode = .done ∨ reader.parsed.Unbroken

theorem regular_ofText (text : Text) : (ofText text).Regular where
  sound := sound_ofText text
  begun := by rintro _ ⟨⟩
  unbroken := .inr nofun

theorem Move.begun {scope : Scope} {group : OpenGroup} (known : before.cursor.span?.isSome)
    (begun : ∀ group, before.mode = .group group → before.cursor.committed ≠ [])
    (move : Move scope before after) (mode : after.mode = .group group) :
    after.cursor.committed ≠ [] := by
  have ahead : before.ahead.cursor.committed = before.cursor.committed := Cursor.committed_next known
  cases move with
  | finish | beginTerm | endTerm | unclosed | tooDeep | failInside | closeGroup => cases mode
  | mark isBetween => cases isBetween.symm.trans mode
  | content isTerm => cases isTerm.symm.trans mode
  | name isTerm _ _ _ _ _ _ spot => cases isTerm.symm.trans ((mode_name spot).symm.trans mode)
  | openGroup _ atCursor =>
      obtain ⟨front, committed, -⟩ := Cursor.exists_committed_of_next known atCursor
      exact fun nothing => List.cons_ne_nil _ _ (committed.symm.trans nothing)
  | escape =>
      have twice : before.ahead.ahead.cursor.committed = before.cursor.committed :=
        (Cursor.committed_next (Cursor.isSome_span?_next known)).trans ahead
      rw [twice]
      exact begun group mode
  | inside isGroup =>
      have same : before.ahead.cursor.committed ≠ [] := by
        rw [ahead]
        exact begun _ isGroup
      exact same

theorem Regular.move (regular : before.Regular)
    (move : Move (settings.scope depth base) before after) :
    after.Regular where
  sound := move.sound regular.sound
  begun _ mode := move.begun regular.sound.behind regular.begun mode
  unbroken := move.unbroken (regular.unbroken.resolve_left move.not_done)

theorem Reaches.regular {start reader : Reader} (regular : start.Regular)
    (reached : Reaches (settings.scope depth base) start reader) : reader.Regular := by
  induction reached with
  | refl => exact regular
  | step _ running ran ih => exact ih.move (move_of_step? isSome_enter_scope ih.sound running ran)

theorem Reaches.inFrame {alone start reader : Reader} (last : frame.behind = [])
    (place : base' + Text.byteSize frame.before = base + frame.shift.bytes)
    (alike : GroupsShifted settings depth frame.shift) (regular : alone.Regular)
    (begins : alone.Framed frame start)
    (reached : Reaches (settings.scope depth base) alone reader) :
    ∃ framed, Reaches (frame.scope settings depth base') start framed ∧
      reader.Framed frame framed := by
  induction reached with
  | refl => exact ⟨start, .refl, begins⟩
  | step reached running ran ih =>
      obtain ⟨framed, stillReached, isFramed⟩ := ih
      have regular := reached.regular regular
      have move := move_of_step? isSome_enter_scope regular.sound running ran
      obtain ⟨next, stillMove, nextFramed⟩ := move.inFrame place alike (.inl last) regular.begun
        (regular.unbroken.resolve_left running) isFramed
      exact ⟨next, stillReached.trans (.move stillMove), nextFramed⟩

/-- What is read up to the end comes to the same in a frame, but for the frame. -/
theorem Regular.run?_inFrame {alone start : Reader} {parsed : Parsed} (last : frame.behind = [])
    (place : base' + Text.byteSize frame.before = base + frame.shift.bytes)
    (alike : GroupsShifted settings depth frame.shift) (regular : alone.Regular)
    (begins : alone.Framed frame start)
    (ran : alone.run? (settings.scope depth base) = some parsed) :
    start.run? (frame.scope settings depth base') =
      some (frame.earlier.joined (parsed.shifted frame.shift)) := by
  obtain ⟨ended, reached, done, same⟩ := exists_done_of_run? ran
  obtain ⟨framed, stillReached, isFramed⟩ := reached.inFrame last place alike regular begins
  have stillDone : framed.mode = .done := by
    rw [isFramed.mode, done]
    rfl
  rw [stillReached.run?_eq, run?_of_done stillDone, isFramed.parsed, same]

theorem run?_inFrame {text : Text} {start : Reader} (alone : frame.behind = [])
    (place : base' + Text.byteSize frame.before = base + frame.shift.bytes)
    (alike : GroupsShifted settings depth frame.shift) (begins : (ofText text).Framed frame start) :
    start.run? (frame.scope settings depth base') =
      some (frame.earlier.joined ((parseAt settings depth base text).shifted frame.shift)) :=
  (regular_ofText text).run?_inFrame alone place alike begins (run?_scope settings depth base text)

end Reader

/-- A text is parsed alike wherever it stands, but for the places and levels that it names. -/
theorem parseAt_shifted (settings : Settings) (shift : Shift) (depth base : Nat) (text : Text) :
    parseAt (settings.shifted shift) (depth + shift.levels) (base + shift.bytes) text =
      (parseAt settings depth base text).shifted shift := by
  refine @parseAt_induction settings (fun depth base text parsed =>
    parseAt (settings.shifted shift) (depth + shift.levels) (base + shift.bytes) text =
      parsed.shifted shift) ?_ depth base text
  intro depth base text inside
  have alike : Reader.GroupsShifted settings depth shift := by
    intro allowed first body
    rw [Nat.add_right_comm]
    exact inside allowed first body
  have begins : (Reader.ofText text).Framed { shift } (Reader.ofText text) :=
    { cursor := ⟨rfl, rfl, (List.append_nil _).symm⟩
      mode := rfl, occur := rfl, field := rfl, kind := rfl, enclosure := rfl, parsed := rfl }
  have run := @Reader.run?_inFrame settings depth base (base + shift.bytes) { shift } text
    (Reader.ofText text) rfl rfl alike begins
  rw [Parsed.empty_joined] at run
  exact Option.some.inj ((run?_scope _ _ _ text).symm.trans run)

theorem groupsShifted (settings : Settings) (shift : Shift) (depth : Nat) :
    Reader.GroupsShifted settings depth shift := by
  intro _ first body
  rw [Nat.add_right_comm]
  exact parseAt_shifted settings shift (depth + 1) first body

end SearchQuery
