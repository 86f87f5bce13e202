import SearchQuery.Proofs.Resuming

/-! # Parsing two texts one behind the other

If a text leaves nothing open, a space behind it ends whatever was being read, and the reader is
then at the next text as it is at the beginning of a query: it has no span, and it knows nothing of
the next clause. So what is parsed from the whole is what is parsed from its two parts.
-/

namespace SearchQuery

variable {settings : Settings} {depth base : Nat} {text : Text}

namespace Reader

variable {reader : Reader}

/-- A reader that knows nothing yet about the next clause but how it will occur. -/
structure Clean (reader : Reader) : Prop where
  field : reader.field = none
  kind : reader.kind = .auto
  enclosure : reader.enclosure = none

theorem clean_of_move {scope : Scope} {before after : Reader} (move : Move scope before after)
    (clean : before.mode = .term ∨ before.Clean) : after.mode = .term ∨ after.Clean := by
  -- Outside of terms nothing is known about the next clause.
  cases move with
  | finish mode | mark mode | openGroup mode | unclosed mode | inside mode | tooDeep mode
  | failInside mode =>
      have clean := clean.resolve_left (by simp [mode])
      exact .inr ⟨clean.field, clean.kind, clean.enclosure⟩
  | escape => exact clean.imp id fun clean => ⟨clean.field, clean.kind, clean.enclosure⟩
  | beginTerm => exact .inl rfl
  | content mode => exact .inl mode
  | name mode _ _ _ _ _ _ spot => exact .inl ((mode_name spot).trans mode)
  | endTerm | closeGroup => exact .inr ⟨rfl, rfl, rfl⟩

theorem Reaches.clean (reached : Reaches (settings.scope depth base) (ofText text) reader)
    (mode : reader.mode ≠ .term) : reader.Clean := by
  have inv : reader.mode = .term ∨ reader.Clean := by
    apply reached.invariant_of_moves (.inr ⟨rfl, rfl, rfl⟩)
    intro before after _ clean move
    exact clean_of_move move clean
  exact inv.resolve_left mode

end Reader

open Reader (Reaches)

/-- Whether a text leaves nothing open: its parse was not ended, and at its end there is neither a
quote nor a parenthesis of a value to be closed, no backslash without a character and no sign
without a clause. -/
structure Closed (settings : Settings) (text : Text) : Prop where
  unbroken : (parse settings text).Unbroken
  enclosure : ∀ reader, Reaches (settings.scope 0 0) (.ofText text) reader →
    reader.cursor.rest = [] → reader.enclosure = none
  escape : ∀ reader, Reaches (settings.scope 0 0) (.ofText text) reader →
    reader.cursor.rest ≠ ['\\']
  occur : ∀ reader, Reaches (settings.scope 0 0) (.ofText text) reader →
    reader.mode = .done → reader.occur = .should

theorem closed_of_readers (readers : List Reader)
    (begins : .ofText text ∈ readers)
    (steps : ∀ before ∈ readers, before.mode ≠ .done →
      ∃ after ∈ readers, before.step? (settings.scope 0 0) = some after)
    (enclosure : ∀ reader ∈ readers, reader.cursor.rest = [] → reader.enclosure = none)
    (escape : ∀ reader ∈ readers, reader.cursor.rest ≠ ['\\'])
    (done : ∀ reader ∈ readers, reader.mode = .done →
      reader.occur = .should ∧ reader.parsed.fatal? = none) : Closed settings text := by
  have listed : ∀ reader, Reaches (settings.scope 0 0) (.ofText text) reader →
      reader ∈ readers := by
    intro reader reached
    apply reached.invariant begins
    intro before after member running ran
    obtain ⟨other, otherMember, ranOther⟩ := steps before member running
    cases ran.symm.trans ranOther
    exact otherMember
  constructor
  case enclosure => exact fun reader reached => enclosure reader (listed reader reached)
  case escape => exact fun reader reached => escape reader (listed reader reached)
  case occur => exact fun reader reached isDone => (done reader (listed reader reached) isDone).1
  case unbroken =>
      obtain ⟨last, reached, isDone, same⟩ := exists_done_parseAt settings 0 0 text
      have nothing := (done last (listed last reached) isDone).2
      rw [same] at nothing
      exact Parsed.fatal?_eq_none_iff.1 nothing

namespace Reader

/-- The part of a text that is followed by a space and more. -/
def followedBy (more : Text) : Frame := { behind := ' ' :: more }

/-- The readers of a text and of a longer one that come to the end of the text together. -/
structure AtEnd (settings : Settings) (text more : Text) (reader framed : Reader) : Prop where
  alone : Reaches (settings.scope 0 0) (ofText text) reader
  whole : Reaches (settings.scope 0 0) (ofText (text ++ ' ' :: more)) framed
  running : reader.mode ≠ .done
  atEnd : reader.cursor.rest = []
  isFramed : reader.Framed (followedBy more) framed

variable {more : Text} {framed : Reader}

/-- Up to the end of a text it is read as if nothing was behind it. -/
theorem exists_atEnd_of_reaches (closed : Closed settings text) (more : Text)
    (reached : Reaches (settings.scope 0 0) (ofText text) reader) :
    (∃ framed, Reaches (settings.scope 0 0) (ofText (text ++ ' ' :: more)) framed ∧
      reader.Framed (followedBy more) framed) ∨
    ∃ last framed, AtEnd settings text more last framed := by
  -- Both runs go on together until the reader of the text alone is at its end for the first time.
  induction reached with
  | refl =>
      exact .inl ⟨_, .refl,
        { cursor := ⟨rfl, rfl, rfl⟩
          mode := rfl, occur := rfl, field := rfl, kind := rfl, enclosure := rfl, parsed := rfl }⟩
  | @step before after reached running ran ih =>
      rcases ih with ⟨framed, stillReached, isFramed⟩ | found
      · by_cases atEnd : before.cursor.rest = []
        · exact .inr ⟨before, framed, reached, stillReached, running, atEnd, isFramed⟩
        · have move := move_of_step? isSome_enter_scope reached.sound running ran
          obtain ⟨next, stillMove, nextFramed⟩ := @Move.inFrame settings 0 0 0 (followedBy more)
            before after framed rfl (groupsShifted settings {} 0)
            (.inr ⟨atEnd, closed.escape before reached, fun _ _ => rfl⟩)
            (reached.regular (regular_ofText text)).begun (reached.unbroken running) isFramed move
          exact .inl ⟨next, stillReached.trans (.move stillMove), nextFramed⟩
      · exact .inr found

theorem exists_atEnd (closed : Closed settings text) (more : Text) :
    ∃ last framed, AtEnd settings text more last framed := by
  obtain ⟨last, reached, between, atEnd, -⟩ := exists_end_of_unbroken closed.unbroken
  rcases exists_atEnd_of_reaches closed more reached with ⟨framed, whole, isFramed⟩ | found
  · exact ⟨last, framed, reached, whole, by simp [between], atEnd, isFramed⟩
  · exact found

theorem AtEnd.parsed_eq (atEnd : AtEnd settings text more reader framed) :
    framed.parsed = reader.parsed := by
  rw [atEnd.isFramed.parsed, followedBy, Parsed.empty_joined, Parsed.shifted_zero]

theorem AtEnd.rest_eq (atEnd : AtEnd settings text more reader framed) :
    framed.cursor.rest = ' ' :: more := by
  rw [atEnd.isFramed.cursor.rest, atEnd.atEnd]
  rfl

/-- Whether the longer text is read up to what is behind the space, with nothing known by then but
what is parsed from the text before it. -/
def ReadBehind (settings : Settings) (text more : Text) : Prop :=
  ∃ ready, Reaches (settings.scope 0 0) (ofText (text ++ ' ' :: more)) ready ∧
    ready.Ready (parse settings text).clauses (parse settings text).failure .should more

theorem AtEnd.readBehind_of_between (closed : Closed settings text)
    (atEnd : AtEnd settings text more reader framed) (mode : reader.mode = .between) :
    ReadBehind settings text more := by
  have finish : Move (settings.scope 0 0) reader _ := .finish mode atEnd.atEnd
  have finished := atEnd.alone.trans (.move finish)
  have same : reader.parsed = parse settings text := finished.parsed_of_done rfl
  have unsigned := closed.occur _ finished rfl
  have stillBetween : framed.mode = .between := by
    rw [atEnd.isFramed.mode, mode]
    rfl
  have clean := atEnd.whole.clean (by simp [stillBetween])
  have atSpace : framed.cursor.rest.head? = some ' ' := by
    rw [atEnd.rest_eq]
    rfl
  obtain ⟨span, known⟩ := Cursor.exists_spanText? atEnd.whole.sound.behind
  have blank : Move (settings.scope 0 0) framed _ :=
    .mark stillBetween atSpace .blank (Cursor.spanText?_next atSpace known)
  refine ⟨_, atEnd.whole.trans (.move blank), ?_⟩
  rw [← same, ← atEnd.parsed_eq]
  exact
    { mode := stillBetween, span := rfl, rest := Cursor.rest_next_of_cons atEnd.rest_eq
      clauses := rfl, failure := rfl, occur := atEnd.isFramed.occur.trans unsigned
      field := clean.field, kind := clean.kind, enclosure := clean.enclosure }

theorem AtEnd.readBehind_of_term (closed : Closed settings text)
    (atEnd : AtEnd settings text more reader framed) (mode : reader.mode = .term) :
    ReadBehind settings text more := by
  have outside := closed.enclosure reader atEnd.alone atEnd.atEnd
  obtain ⟨span, known⟩ := Cursor.exists_spanText? atEnd.alone.sound.behind
  generalize isBuilt : settings.buildTerm reader.field reader.kind (Text.trim span) = built
  have inTerm : reader.InTerm reader.clauses reader.failure reader.occur reader.field
      reader.kind none span (Text.spaces 0 ++ []) :=
    ⟨mode, known, atEnd.atEnd, rfl, rfl, rfl, rfl, rfl, outside⟩
  have stillInTerm : framed.InTerm reader.clauses reader.failure reader.occur reader.field
      reader.kind none span (Text.spaces 1 ++ more) :=
    { mode := atEnd.isFramed.mode.trans (congrArg _ mode)
      span := atEnd.isFramed.cursor.spanText?.trans known, rest := atEnd.rest_eq
      clauses := congrArg Parsed.clauses atEnd.parsed_eq
      failure := congrArg Parsed.failure atEnd.parsed_eq
      occur := atEnd.isFramed.occur, field := atEnd.isFramed.field, kind := atEnd.isFramed.kind
      enclosure := atEnd.isFramed.enclosure.trans outside }
  have reads : reader.Reads (settings.scope 0 0) reader.clauses reader.failure reader.occur
      built [] := inTerm.ends (.inr rfl) isBuilt.symm
  have stillReads : framed.Reads (settings.scope 0 0) reader.clauses reader.failure reader.occur
      built more := stillInTerm.ends (.inl Nat.one_pos) isBuilt.symm
  obtain ⟨ended, ends, atClause⟩ := reads.exists_ready
  obtain ⟨ready, stillEnds, isReady⟩ := stillReads.exists_ready
  have finish : Move (settings.scope 0 0) ended _ := .finish atClause.mode atClause.rest
  have same : ended.parsed = parse settings text :=
    ((atEnd.alone.trans ends).trans (.move finish)).parsed_of_done rfl
  refine ⟨ready, atEnd.whole.trans stillEnds, ?_⟩
  rw [← atClause.clauses, ← atClause.failure] at isReady
  rw [← same]
  exact isReady

/-- The space behind a text ends what is being read, as the end of the text does. -/
theorem readBehind (closed : Closed settings text) (more : Text) :
    ReadBehind settings text more := by
  obtain ⟨reader, framed, atEnd⟩ := exists_atEnd closed more
  cases mode : reader.mode with
  | between => exact atEnd.readBehind_of_between closed mode
  | term => exact atEnd.readBehind_of_term closed mode
  | group group =>
      -- The parse of the text alone would have been ended by the group.
      have unclosed : Move (settings.scope 0 0) reader _ := .unclosed mode atEnd.atEnd
      have same := (atEnd.alone.trans (.move unclosed)).parsed_of_done rfl
      have notFatal := closed.unbroken _ (congrArg Parsed.failure same.symm)
      cases notFatal
  | done => exact absurd mode atEnd.running

end Reader

/-- A text that leaves nothing open and one behind it mean together what each of them means. A
failure that ends the reading counts first, with its place in the whole; otherwise the failure of
the first text counts if there is one. -/
theorem parse_append_blank (settings : Settings) (text more : Text)
    (closed : Closed settings text) :
    let whole := parse settings (text ++ ' ' :: more)
    let first := parse settings text
    let second := parse settings more
    whole.clauses = first.clauses.append second.clauses ∧
    whole.failure = (second.fatal?.map (Failure.shifted { bytes := Text.byteSize text + 1 }) <|>
      (first.failure <|> second.failure)) := by
  intro whole first second
  obtain ⟨reader, reached, ready⟩ := Reader.readBehind closed more
  have split : text ++ ' ' :: more = text ++ [' '] ++ more := by simp
  rw [split] at reached
  have bytes : Text.byteSize (text ++ [' ']) = Text.byteSize text + 1 :=
    Text.byteSize_append text [' ']
  have joined : whole = reader.parsed.joined
      (second.shifted { bytes := Text.byteSize text + 1 }) := by
    rw [← bytes]
    exact (congrArg (parse settings) split).trans (ready.parseAt_eq reached)
  have clauses : reader.parsed.clauses = first.clauses := ready.clauses
  have failure : reader.parsed.failure = first.failure := ready.failure
  constructor
  · rw [joined, ← clauses]
    rfl
  · rw [joined, Parsed.failure_joined_shifted, failure]

/-- Behind `+a`, whose value is refused, the parenthesis that is never closed is at byte three. -/
theorem parse_append_blank_unclosed :
    let settings : Settings := Settings.withCheck { defaultFields := [['n']] } ['n'] fun _ =>
      .error ['?']
    let text : Text := ['+', 'a']
    Closed settings text ∧
    (parse settings text).failure = some (.rejected ⟨['n'], ['a'], ['?']⟩) ∧
    (parse settings (text ++ [' ', '('])).clauses =
      (parse settings text).clauses.append (parse settings ['(']).clauses ∧
    (parse settings (text ++ [' ', '('])).failure = some (.unclosedGroup 3) := by
  intro settings text
  have closed : Closed settings text := by
    let step (reader : Reader) : Reader := (reader.step? (settings.scope 0 0)).getD reader
    apply closed_of_readers ((List.range 6).map fun count => Nat.repeat step count (.ofText text))
    all_goals decide +kernel
  obtain ⟨clauses, failure⟩ := parse_append_blank settings text ['('] closed
  exact ⟨closed, by decide +kernel, clauses, failure.trans (by decide +kernel)⟩

end SearchQuery
