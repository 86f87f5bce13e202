import SearchQuery.Proofs.OwnEvents

/-! # The spans of a text lie side by side

A span is what has been read since the last commit, and is recorded when it is committed. So the
spans that a text leaves in the log are the beginning of the text, without a gap. What can be left
behind them when the reading ends are characters that were passed over with a backslash in front.
-/

namespace SearchQuery

/-- The characters, each with a backslash in front. -/
def Text.backslashed (chars : Text) : Text := chars.flatMap fun c => ['\\', c]

namespace Parsed

/-- The spans that a text in `depth` groups was read in, one behind the other. -/
def committed (depth : Nat) (parsed : Parsed) : Text := (parsed.reads depth).flatMap Prod.snd

variable {depth : Nat} {parsed inner : Parsed}

theorem committed_recording (events : List Event) :
    (parsed.recording depth events).committed depth =
      parsed.committed depth ++ (events.filterMap Event.read?).flatMap Prod.snd := by
  rw [committed, reads_recording, List.flatMap_append]
  rfl

theorem committed_entering (body : Text) (deeper : inner.Within (depth + 1)) :
    (parsed.entering depth body inner).committed depth = parsed.committed depth := by
  rw [committed, reads_entering body deeper]
  rfl

theorem committed_opening (offset : Nat) (span : Text) :
    (parsed.opening depth offset span).committed depth = parsed.committed depth ++ span := by
  simp [opening, committed_recording, Event.read?]

end Parsed

theorem Abort.committed_eq {settings : Settings} {depth : Nat} {before after : Parsed}
    (abort : Abort settings depth before after) :
    after.committed depth = before.committed depth := by
  obtain ⟨fatal, events, -, own, ending⟩ := abort.own_eq
  have noSpan : events.filterMap Event.read? = [] := by cases ending <;> rfl
  simp [Parsed.committed, Parsed.reads, own, noSpan]

namespace Reader

variable {scope : Scope} {settings : Settings} {depth base : Nat} {text span : Text}
  {reader before after : Reader}

/-- The spans in the log are what the cursor has committed. -/
def Tiles (depth : Nat) (reader : Reader) : Prop :=
  reader.parsed.committed depth = reader.cursor.committed.reverse

theorem Tiles.committing {kind : SpanKind} (tiles : reader.Tiles scope.depth)
    (known : reader.cursor.spanText? = some span) :
    (reader.committing scope kind span).Tiles scope.depth := by
  obtain ⟨old, isOld, rfl⟩ := Option.map_eq_some_iff.1 known
  have isCommitted : (reader.committing scope kind old.reverse).cursor.committed =
      old ++ reader.cursor.committed := by
    simp [Reader.committing, record, Cursor.commit, isOld]
  have recorded : (reader.committing scope kind old.reverse).parsed.committed scope.depth =
      reader.parsed.committed scope.depth ++ old.reverse := by
    simp [parsed_committing, Parsed.committed_recording, Event.read?]
  rw [Tiles, isCommitted, recorded, tiles, List.reverse_append]

theorem Tiles.record {events : List Event} (tiles : reader.Tiles scope.depth)
    (noSpan : ∀ event ∈ events, event.read? = none) :
    (reader.record scope events).Tiles scope.depth := by
  have nothing : events.filterMap Event.read? = [] := List.filterMap_eq_nil_iff.2 noSpan
  have same : (reader.record scope events).parsed.committed scope.depth =
      reader.parsed.committed scope.depth := by
    simp [parsed_record, Parsed.committed_recording, nothing]
  exact same.trans tiles

theorem Tiles.ahead (tiles : reader.Tiles depth) (known : reader.cursor.span?.isSome) :
    reader.ahead.Tiles depth := by
  have same : reader.ahead.cursor.committed = reader.cursor.committed :=
    Cursor.committed_next known
  rw [Tiles, same]
  exact tiles

theorem Tiles.sigilled (tiles : reader.Tiles scope.depth)
    (fresh : reader.cursor.spanText? = some []) :
    (reader.sigilled scope).Tiles scope.depth := by
  have known : reader.cursor.span?.isSome := Cursor.isSome_span?_of_spanText? fresh
  simp only [Reader.sigilled]
  split
  · exact tiles
  · have still : ({ reader.still with kind := .sigil .freeText, enclosure := some (.parens 0) } :
        Reader).Tiles scope.depth := tiles
    exact still.committing fresh
  · rename_i sigil _ isSigil
    obtain ⟨c, atCursor, -⟩ := Option.bind_eq_some_iff.1 isSigil
    obtain ⟨rest, isRest⟩ := List.head?_eq_some_iff.1 atCursor
    have ahead : ({ reader.ahead with kind := .sigil sigil } : Reader).Tiles scope.depth :=
      tiles.ahead known
    rw [isRest, List.take_succ_cons, List.take_zero]
    exact ahead.committing (Cursor.spanText?_next atCursor fresh)

theorem Tiles.entering {body : Text} {inner : Parsed} (tiles : reader.Tiles scope.depth)
    (deeper : inner.Within (scope.depth + 1)) :
    (reader.entering scope body inner).Tiles scope.depth := by
  rw [Tiles, parsed_entering, Parsed.committed_entering body deeper]
  exact tiles

theorem Tiles.abort {fatal : Failure} (tiles : reader.Tiles scope.depth) :
    (reader.abort scope fatal).Tiles scope.depth := by
  have ended : ({ reader with mode := .done, failure := some fatal } : Reader).Tiles scope.depth :=
    tiles
  exact ended.record (by simp [Event.read?])

/-- What is committed is read, and what is read is committed. -/
theorem Move.tiles (move : Move (settings.scope depth base) before after)
    (behind : before.cursor.span?.isSome) (tiles : before.Tiles depth) : after.Tiles depth := by
  have ahead := tiles.ahead behind
  cases move with
  | finish | content | inside => exact ahead
  | beginTerm => exact tiles
  | escape => exact ahead.ahead (Cursor.isSome_span?_next behind)
  | @mark c kind occur span mode atCursor mark known =>
      have signed : ({ before.ahead with occur } : Reader).Tiles depth := ahead
      exact @Tiles.committing (settings.scope depth base) span _ kind signed known
  | @openGroup span offset mode atCursor known isOffset =>
      have opened := @Tiles.committing (settings.scope depth base) span _ .groupOpen ahead known
      have inGroup : ({ committing (settings.scope depth base) .groupOpen span before.ahead with
          mode := .group { occur := before.occur, offset } } : Reader).Tiles depth := opened
      exact @Tiles.record (settings.scope depth base) _ _ inGroup (by simp [Event.read?])
  | @name c name span named mode atCursor delimiter outside noField value nonempty spot known =>
      have isNamed : ({ named with field := some name } : Reader).Tiles depth := by
        rw [spot]
        split
        · exact ahead
        · exact tiles
      have committed := @Tiles.committing (settings.scope depth base) span _ .field isNamed known
      exact committed.sigilled rfl
  | @endTerm span mode atEnd known =>
      have noted := @Tiles.record (settings.scope depth base) before.ahead
        (((settings.buildTerm before.field before.kind (Text.trim span)).rejections).map
          Event.rejected) ahead (by simp [Event.read?])
      exact @Tiles.committing (settings.scope depth base) span _
        (if before.field.isSome then .fieldValue else .term) noted known
  | unclosed => exact @Tiles.abort (settings.scope depth base) _ _ ahead
  | tooDeep => exact @Tiles.abort (settings.scope depth base) before.still _ tiles
  | @failInside _ body _ inner _ mode atCursor closes allowed _ entered =>
      have isEntered := @Tiles.entering (settings.scope depth base) before.still body inner tiles
        (within_of_enter allowed entered)
      exact isEntered.abort
  | @closeGroup group body _ inner mode atCursor closes allowed known entered =>
      have isEntered := @Tiles.entering (settings.scope depth base) before.still body inner tiles
        (within_of_enter allowed entered)
      have attached : ({ (((before.still.entering (settings.scope depth base) body inner).report
          inner.failure).attach group.occur inner.clauses.toClause).ahead with
          mode := .between } : Reader).Tiles depth := isEntered.ahead behind
      have read : before.still.cursor.next.2.spanText? = some (body ++ [')']) :=
        Cursor.spanText?_next atCursor known
      exact @Tiles.committing (settings.scope depth base) _ _ .groupClose attached read

theorem Reaches.tiles (reached : Reaches (settings.scope depth base) (ofText text) reader) :
    reader.Tiles depth := by
  have begins : (ofText text).Tiles depth := rfl
  apply reached.invariant_of_moves begins
  intro before after sound tiles move
  exact move.tiles sound.behind tiles

/-- Between clauses nothing waits to be committed but characters behind backslashes. -/
def PassesOver (reader : Reader) : Prop :=
  reader.mode = .between → ∃ chars,
    reader.cursor.spanText? = some (Text.backslashed chars) ∨
      reader.cursor.rest = [] ∧ reader.cursor.spanText? = some (Text.backslashed chars ++ ['\\'])

theorem PassesOver.of_committed (committed : reader.cursor.spanText? = some []) :
    reader.PassesOver := fun _ => ⟨[], .inl committed⟩

theorem PassesOver.of_mode (mode : reader.mode ≠ .between) : reader.PassesOver :=
  fun between => absurd between mode

theorem PassesOver.escape (passes : reader.PassesOver)
    (atCursor : reader.cursor.rest.head? = some '\\') : reader.ahead.ahead.PassesOver := by
  intro between
  obtain ⟨chars, pending | ⟨atEnd, -⟩⟩ := passes between
  · rcases Cursor.spanText?_escape atCursor pending with ⟨atEnd, read⟩ | ⟨c, read⟩
    · exact ⟨chars, .inr ⟨atEnd, read⟩⟩
    · refine ⟨chars ++ [c], .inl (read.trans ?_)⟩
      simp [Text.backslashed]
  · rw [atEnd] at atCursor
    cases atCursor

theorem Move.passesOver (move : Move scope before after) (passes : before.PassesOver) :
    after.PassesOver := by
  cases move with
  | escape _ atCursor => exact passes.escape atCursor
  | mark | endTerm | closeGroup => exact .of_committed rfl
  | finish | openGroup | beginTerm | unclosed | inside | tooDeep | failInside =>
      exact .of_mode nofun
  | content mode => exact .of_mode fun between => nomatch mode.symm.trans between
  | name mode _ _ _ _ _ _ spot =>
      exact .of_mode fun between => nomatch ((mode_name spot).trans mode).symm.trans between

theorem Reaches.passesOver (reached : Reaches (settings.scope depth base) (ofText text) reader) :
    reader.PassesOver := by
  apply reached.invariant_of_moves (.of_committed rfl)
  intro before after _ passes move
  exact move.passesOver passes

theorem Opening.committed_eq {front behind : Text}
    (opening : reader.Opening settings depth base text front behind span) :
    reader.parsed.committed depth ++ span = front ++ ['('] := by
  -- In front of a group the text up to its parenthesis has been committed, but for the span that
  -- the parenthesis ends.
  have whole : reader.ahead.cursor.text = text :=
    Cursor.text_of_lawful (.next opening.reached.lawful)
  have same : reader.ahead.cursor.committed = reader.cursor.committed :=
    Cursor.committed_next opening.reached.sound.behind
  have rest : reader.ahead.cursor.rest = behind := Cursor.rest_next_of_cons opening.rest
  rw [Cursor.text_of_spanText? opening.known, same, rest, ← opening.reached.tiles, opening.text_eq,
    List.append_cons front] at whole
  exact List.append_cancel_right whole

end Reader

open Reader (Reaches)

variable {settings : Settings} {query text : Text} {depth base : Nat}

theorem exists_backslashed_of_unbroken (unbroken : (parseAt settings depth base text).Unbroken) :
    ∃ passed,
      text = (parseAt settings depth base text).committed depth ++ Text.backslashed passed ∨
      text = (parseAt settings depth base text).committed depth ++
        (Text.backslashed passed ++ ['\\']) := by
  obtain ⟨last, reached, between, atEnd, same⟩ := exists_end_of_unbroken unbroken
  have split : ∀ span, last.cursor.spanText? = some span →
      text = (parseAt settings depth base text).committed depth ++ span := by
    intro span known
    rw [← same, reached.tiles, ← Cursor.text_of_lawful reached.lawful,
      Cursor.text_of_spanText? known, atEnd, List.append_nil]
  obtain ⟨passed, pending | ⟨-, pending⟩⟩ := reached.passesOver between
  · exact ⟨passed, .inl (split _ pending)⟩
  · exact ⟨passed, .inr (split _ pending)⟩

/-- The spans of a text whose reading was ended go up to the group that the failure is in. -/
theorem exists_committed_of_fatal {fatal : Failure}
    (failed : (parseAt settings depth base text).fatal? = some fatal) :
    ∃ front behind earlier later, text = front ++ '(' :: behind ∧
      (parseAt settings depth base text).committed depth = front ++ ['('] ∧
      (parseAt settings depth base text).own depth =
        earlier ++ .groupOpened (base + Text.byteSize front) (depth + 1) :: later ∧
      Ending depth fatal later := by
  obtain ⟨opening, front, behind, span, isOpening, abort⟩ := exists_opening_of_fatal failed
  obtain ⟨other, ending, otherFailed, own, isEnding⟩ := abort.own_eq
  cases otherFailed.symm.trans (fatal?_eq_some_iff.1 failed).1
  refine ⟨front, behind, opening.parsed.own depth ++ [.read .groupOpen span], ending,
    isOpening.text_eq, ?_, ?_, isEnding⟩
  · rw [abort.committed_eq, Parsed.committed_opening, isOpening.committed_eq]
  · rw [own, Parsed.opening, Parsed.own_recording]
    simp

/-- A text that a parse reads is committed from its beginning, with no gap and nothing twice. If
its reading was not ended, nothing is left but characters behind backslashes, and perhaps a last
backslash. If it was, then what is committed ends with the parenthesis of the group that was opened
last, and nothing is recorded behind that but that the group was entered and the reading ended. -/
theorem spans_tile_text (invoked : Invoked settings query depth base text) :
    let parsed := parseAt settings depth base text
    parsed.log <:+: (parse settings query).log ∧
    parsed.committed depth <+: text ∧
    (parsed.fatal? = none → ∃ passed,
      text = parsed.committed depth ++ Text.backslashed passed ∨
      text = parsed.committed depth ++ (Text.backslashed passed ++ ['\\'])) ∧
    ∀ fatal, parsed.fatal? = some fatal → ∃ front earlier later,
      parsed.committed depth = front ++ ['('] ∧
      parsed.own depth =
        earlier ++ .groupOpened (base + Text.byteSize front) (depth + 1) :: later ∧
      Ending depth fatal later := by
  intro parsed
  refine ⟨invoked.log_isInfix, ?_, ?_, ?_⟩
  · cases ended : parsed.fatal? with
    | none =>
        obtain ⟨passed, isText | isText⟩ :=
          exists_backslashed_of_unbroken (Parsed.fatal?_eq_none_iff.1 ended)
        · exact ⟨_, isText.symm⟩
        · exact ⟨_, isText.symm⟩
    | some fatal =>
        obtain ⟨front, behind, -, -, rfl, committed, -⟩ := exists_committed_of_fatal ended
        exact ⟨behind, by rw [committed, List.append_assoc]; rfl⟩
  · intro unbroken
    exact exists_backslashed_of_unbroken (Parsed.fatal?_eq_none_iff.1 unbroken)
  · intro fatal failed
    obtain ⟨front, -, earlier, later, -, committed, own, ending⟩ := exists_committed_of_fatal failed
    exact ⟨front, earlier, later, committed, own, ending⟩

/-- In the group of `(a \b)` the character behind the backslash belongs to no span. -/
theorem spans_tile_text_in_group :
    let query : Text := ['(', 'a', ' ', '\\', 'b', ')']
    let body : Text := ['a', ' ', '\\', 'b']
    let parsed := parseAt {} 1 1 body
    Invoked {} query 1 1 body ∧ parsed.log <:+: (parse {} query).log ∧
    parsed.reads 1 = [(.term, ['a', ' '])] ∧
    ∃ passed, body = parsed.committed 1 ++ Text.backslashed passed ∨
      body = parsed.committed 1 ++ (Text.backslashed passed ++ ['\\']) := by
  intro query body parsed
  obtain ⟨reader, reached, closing⟩ : ∃ reader,
      Reaches (Settings.scope {} 0 0) (.ofText query) reader ∧
        reader.closing? 0 = some (1, body) := by
    -- The reader opens the group and reads its body, the last two characters in one step.
    refine ⟨_, .step (.step (.step (.step .refl ?_ rfl) ?_ rfl) ?_ rfl) ?_ rfl, ?_⟩
    all_goals decide +kernel
  have invoked : Invoked {} query 1 1 body := .inner .outer (by decide) reached closing
  obtain ⟨isPart, -, unbroken, -⟩ := spans_tile_text invoked
  exact ⟨invoked, isPart, by decide +kernel, unbroken (by decide +kernel)⟩

end SearchQuery
