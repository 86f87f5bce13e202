import SearchQuery.Proofs.GroupText

/-! # What happened to the groups of a text

`History` tells the events of a parse by the groups of its text: where a group begins, where the
text behind its parenthesis ends it, what its body came to, and how the reading was ended if it
was. `history_parseAt` shows that the log of every parse is such a history. What the log says of
groups is then proved by induction on histories, without a look at the reader.
-/

namespace SearchQuery

/-- An event that has nothing to do with a group. -/
inductive Event.Plain : Event → Prop where
  | read {kind : SpanKind} {span : Text} : kind ≠ .groupClose → Plain (.read kind span)
  | rejected {rejection : Rejection} : Plain (.rejected rejection)

/-- A parenthesis of a text that begins at byte `base` of the query: its place in the query, and
the text behind it. -/
def Text.OpensAt (base : Nat) (text : Text) (offset : Nat) (after : Text) : Prop :=
  ∃ before, text = before ++ '(' :: after ∧ offset = base + Text.byteSize before

/-- The events of the parse of a text, and the failure that has ended it if one has. -/
inductive History (settings : Settings) :
    (depth base : Nat) → Text → List Event → (fatal : Option Failure) → Prop where
  | begun {depth base : Nat} {text : Text} : History settings depth base text [] none
  | plain {depth base : Nat} {text : Text} {events added : List Event} :
      History settings depth base text events none → (∀ event ∈ added, event.Plain) →
      History settings depth base text (events ++ added) none
  | group {depth base offset : Nat} {text after body rest : Text} {events inner : List Event} :
      History settings depth base text events none → text.OpensAt base offset after →
      GroupText.close? after = some (body, rest) → depth < settings.maxDepth →
      History settings (depth + 1) (offset + 1) body inner none →
      History settings depth base text
        (events ++ [.groupOpened offset (depth + 1), .groupEntered body (depth + 1)] ++ inner ++
          [.read .groupClose (body ++ [')'])]) none
  | unclosed {depth base offset : Nat} {text after : Text} {events : List Event} :
      History settings depth base text events none → text.OpensAt base offset after →
      GroupText.close? after = none →
      History settings depth base text
        (events ++ [.groupOpened offset (depth + 1), .aborted (.unclosedGroup offset)])
        (some (.unclosedGroup offset))
  | tooDeep {depth base offset : Nat} {text after : Text} {events : List Event} :
      History settings depth base text events none → text.OpensAt base offset after →
      (GroupText.close? after).isSome → settings.maxDepth ≤ depth →
      History settings depth base text
        (events ++ [.groupOpened offset (depth + 1), .aborted (.nestedTooDeep settings.maxDepth)])
        (some (.nestedTooDeep settings.maxDepth))
  | inside {depth base offset : Nat} {text after body rest : Text} {events inner : List Event}
      {fatal : Failure} :
      History settings depth base text events none → text.OpensAt base offset after →
      GroupText.close? after = some (body, rest) → depth < settings.maxDepth →
      History settings (depth + 1) (offset + 1) body inner (some fatal) →
      History settings depth base text
        (events ++ [.groupOpened offset (depth + 1), .groupEntered body (depth + 1)] ++ inner ++
          [.aborted fatal]) (some fatal)

/-- The failure of a parse if it has ended the reading. -/
def Parsed.fatal? (parsed : Parsed) : Option Failure := parsed.failure.filter Failure.isFatal

/-- What has been parsed while reading goes on. -/
def Parsed.Unbroken (parsed : Parsed) : Prop :=
  ∀ failure, parsed.failure = some failure → failure.isFatal = false

section

variable {settings : Settings} {depth base : Nat} {text : Text} {before after : Parsed}

theorem Parsed.fatal?_eq_none_iff : before.fatal? = none ↔ before.Unbroken := by
  simp [fatal?, Unbroken, Option.filter_eq_none_iff]

theorem Parsed.Unbroken.fatal?_eq (unbroken : before.Unbroken) : before.fatal? = none :=
  fatal?_eq_none_iff.2 unbroken

theorem Parsed.fatal?_of_isFatal {fatal : Failure} (failed : before.failure = some fatal)
    (isFatal : fatal.isFatal) : before.fatal? = some fatal := by
  rw [fatal?, failed, Option.filter_some, if_pos isFatal]

theorem not_fatal_orElse {first second : Option Failure}
    (notFirst : ∀ failure, first = some failure → failure.isFatal = false)
    (notSecond : ∀ failure, second = some failure → failure.isFatal = false) (failure : Failure)
    (failed : (first <|> second) = some failure) : failure.isFatal = false := by
  simp only [Option.orElse_eq_orElse, Option.orElse_eq_or, Option.or_eq_some_iff] at failed
  rcases failed with old | ⟨-, new⟩
  · exact notFirst failure old
  · exact notSecond failure new

theorem BuiltTerm.not_fatal (built : BuiltTerm) (failure : Failure)
    (failed : built.failure? = some failure) : failure.isFatal = false := by
  rw [failure?, Option.map_eq_some_iff] at failed
  obtain ⟨rejection, -, rfl⟩ := failed
  rfl

theorem Effect.unbroken (effect : Effect settings depth before after)
    (unbroken : before.Unbroken) : after.Unbroken := by
  cases effect with
  | pass => exact unbroken
  | @term occur field kind spanKind span built =>
      exact not_fatal_orElse unbroken built.not_fatal
  | group within isInner notFatal => exact not_fatal_orElse unbroken notFatal

end

namespace Reader

section

variable {settings : Settings} {depth base : Nat} {text : Text} {reader before after : Reader}

theorem Move.unbroken (move : Move (settings.scope depth base) before after)
    (unbroken : before.parsed.Unbroken) : after.mode = .done ∨ after.parsed.Unbroken := by
  rcases move.effect with effect | ⟨done, -⟩
  · exact .inr (effect.unbroken unbroken)
  · exact .inl done

theorem Reaches.unbroken
    (reached : Reaches (settings.scope depth base) (ofText text) reader)
    (running : reader.mode ≠ .done) : reader.parsed.Unbroken := by
  have inv : reader.mode = .done ∨ reader.parsed.Unbroken := by
    apply reached.invariant_of_moves (.inr nofun)
    intro before after _ inv move
    exact move.unbroken (inv.resolve_left move.not_done)
  exact inv.resolve_left running

/-- How the events of a reader go with what it is in the middle of. -/
inductive Recounts (settings : Settings) (depth base : Nat) (text : Text) (reader : Reader) :
    Prop where
  | outside : reader.mode = .between ∨ reader.mode = .term →
      History settings depth base text reader.parsed.events none →
      Recounts settings depth base text reader
  | inGroup {group : OpenGroup} {before span : Text} {events : List Event} :
      reader.mode = .group group → reader.Scanning base before span group →
      reader.parsed.events = events ++ [.groupOpened group.offset (depth + 1)] →
      History settings depth base text events none → Recounts settings depth base text reader
  | done : reader.mode = .done →
      History settings depth base text reader.parsed.events reader.parsed.fatal? →
      Recounts settings depth base text reader

theorem Recounts.history (recounts : reader.Recounts settings depth base text)
    (between : reader.mode = .between ∨ reader.mode = .term) :
    History settings depth base text reader.parsed.events none := by
  cases recounts with
  | outside _ history => exact history
  | inGroup mode => rw [mode] at between; simp at between
  | done mode => rw [mode] at between; simp at between

theorem Recounts.scanning (recounts : reader.Recounts settings depth base text) {group : OpenGroup}
    (mode : reader.mode = .group group) :
    ∃ before span events, reader.Scanning base before span group ∧
      reader.parsed.events = events ++ [.groupOpened group.offset (depth + 1)] ∧
      History settings depth base text events none := by
  cases recounts with
  | outside between => rw [mode] at between; simp at between
  | @inGroup other before span events isMode scanning recorded history =>
      cases isMode.symm.trans mode
      exact ⟨before, span, events, scanning, recorded, history⟩
  | done done => cases mode.symm.trans done

theorem Recounts.history_of_done (recounts : reader.Recounts settings depth base text)
    (done : reader.mode = .done) :
    History settings depth base text reader.parsed.events reader.parsed.fatal? := by
  cases recounts with
  | outside between => rw [done] at between; simp at between
  | inGroup mode => cases done.symm.trans mode
  | done _ history => exact history

theorem Scanning.opensAt {group : OpenGroup} {front span : Text}
    (scanning : reader.Scanning base front span group) (whole : reader.cursor.text = text) :
    text.OpensAt base group.offset (span ++ reader.cursor.rest) :=
  ⟨front, by rw [← whole, scanning.text_eq], scanning.offset⟩

theorem mode_sigilled (scope : Scope) (reader : Reader) :
    (reader.sigilled scope).mode = reader.mode := by
  simp only [sigilled]
  split <;> rfl

theorem mode_name {scope : Scope} {before named : Reader} {c : Char} {name span : Text}
    (spot : named = if c = ':' then before.ahead else before.still) :
    ((committing scope .field span { named with field := some name }).sigilled scope).mode =
      before.mode := by
  rw [mode_sigilled, spot]
  split <;> rfl

/-- The reading ends at the end of the text, or with a failure in a group. -/
theorem Move.ends {scope : Scope} (move : Move scope before after) (done : after.mode = .done) :
    (before.mode = .between ∧ before.cursor.rest = [] ∧
      after = { before.ahead with mode := .done }) ∨
    ((∃ group, before.mode = .group group) ∧
      ∃ fatal, after.failure = some fatal ∧ fatal.isFatal) := by
  cases move with
  | finish mode atEnd => exact .inl ⟨mode, atEnd, rfl⟩
  | escape running => exact absurd done running
  | mark mode | content mode => cases mode.symm.trans done
  | openGroup | beginTerm | endTerm | inside | closeGroup => cases done
  | name mode _ _ _ _ _ _ spot => cases ((mode_name spot).trans mode).symm.trans done
  | unclosed mode | tooDeep mode => exact .inr ⟨⟨_, mode⟩, _, rfl, rfl⟩
  | failInside mode _ _ _ _ _ _ isFatal => exact .inr ⟨⟨_, mode⟩, _, rfl, isFatal⟩

theorem le_of_enter?_eq_none (atLimit : (settings.scope depth base).enter? = none) :
    settings.maxDepth ≤ depth := by
  simpa [Settings.scope] using atLimit

/-- Whether the logs of groups in a text are histories. -/
def GroupsRecounted (settings : Settings) (depth : Nat) : Prop :=
  depth < settings.maxDepth → ∀ first body,
    History settings (depth + 1) first body (parseAt settings (depth + 1) first body).events
      (parseAt settings (depth + 1) first body).fatal?

theorem recounts_of_closed {group : OpenGroup} {body : Text}
    {enter : Nat → Text → Option Parsed} {inner : Parsed} (whole : before.cursor.text = text)
    (recounts : before.Recounts settings depth base text)
    (inside : GroupsRecounted settings depth) (mode : before.mode = .group group)
    (atCursor : before.cursor.rest.head? = some ')') (closes : group.Closes ')')
    (allowed : (settings.scope depth base).enter? = some enter)
    (known : before.cursor.spanText? = some body)
    (entered : enter (base + before.cursor.start) body = some inner) :
    ∃ events after rest, before.parsed.events = events ++ [.groupOpened group.offset (depth + 1)] ∧
      History settings depth base text events none ∧ text.OpensAt base group.offset after ∧
      GroupText.close? after = some (body, rest) ∧ depth < settings.maxDepth ∧
      History settings (depth + 1) (group.offset + 1) body inner.events inner.fatal? := by
  obtain ⟨front, span, events, scanning, recorded, history⟩ := recounts.scanning mode
  cases scanning.known.symm.trans known
  obtain ⟨rest, isRest⟩ := List.head?_eq_some_iff.1 atCursor
  obtain ⟨within, isInner⟩ := eq_parseAt_of_enter allowed entered
  have first : base + before.cursor.start = group.offset + 1 := by
    rw [scanning.start_eq, scanning.offset, Nat.add_assoc]
  rw [first] at isInner
  subst isInner
  have opensAt := scanning.opensAt whole
  rw [isRest] at opensAt
  exact ⟨events, _, rest, recorded, history, opensAt, scanning.close_of_closes isRest closes,
    within, inside within _ _⟩

theorem recounts_abort {fatal : Failure} (isFatal : fatal.isFatal)
    (ended : History settings depth base text (reader.parsed.events ++ [.aborted fatal])
      (some fatal)) :
    (reader.abort (settings.scope depth base) fatal).Recounts settings depth base text := by
  refine .done rfl ?_
  rw [Parsed.fatal?_of_isFatal rfl isFatal, parsed_abort, Parsed.events_aborting]
  exact ended

section

variable (recounts : before.Recounts settings depth base text)

include recounts

/-- Outside of groups what is recorded of other things is put to the history. -/
theorem Recounts.plain {added : List Event} (outside : before.mode = .between ∨ before.mode = .term)
    (stillOutside : after.mode = .between ∨ after.mode = .term)
    (recorded : after.parsed = before.parsed.recording depth added)
    (plain : ∀ event ∈ added, event.Plain) : after.Recounts settings depth base text := by
  refine .outside stillOutside ?_
  rw [recorded, Parsed.events_recording]
  exact (recounts.history outside).plain plain

theorem Recounts.escape (running : before.mode ≠ .done)
    (atCursor : before.cursor.rest.head? = some '\\') :
    before.ahead.ahead.Recounts settings depth base text := by
  cases recounts with
  | outside between history => exact .outside between history
  | inGroup mode scanning recorded history =>
      obtain ⟨span, scanning⟩ := scanning.escape atCursor
      exact .inGroup mode scanning recorded history
  | done mode => exact absurd mode running

theorem Recounts.openGroup {span : Text} {offset : Nat} (known : before.cursor.span?.isSome)
    (mode : before.mode = .between) (atCursor : before.cursor.rest.head? = some '(')
    (isOffset : base + before.ahead.cursor.pos = offset + 1) :
    (record (settings.scope depth base) [.groupOpened offset (depth + 1)]
      { committing (settings.scope depth base) .groupOpen span before.ahead with
        mode := .group { occur := before.occur, offset } }).Recounts settings depth base text := by
  obtain ⟨front, scanning⟩ := exists_scanning known atCursor isOffset
  have plain : ∀ event ∈ [Event.read .groupOpen span], event.Plain := by
    simpa using Event.Plain.read (by simp)
  refine .inGroup rfl (scanning _ rfl) ?_ ((recounts.history (.inl mode)).plain plain)
  refine (congrArg Parsed.events (parsed_opening _ span offset _ before)).trans ?_
  rw [Parsed.events_recording, List.append_assoc]
  rfl

theorem Recounts.name {c : Char} {name span : Text} {named : Reader} (mode : before.mode = .term)
    (spot : named = if c = ':' then before.ahead else before.still) :
    ((committing (settings.scope depth base) .field span { named with field := some name }).sigilled
      (settings.scope depth base)).Recounts settings depth base text := by
  obtain ⟨events, recorded, reads⟩ :=
    parsed_sigilled_of_name spot (settings.scope depth base) name span
  refine recounts.plain (.inr mode) (.inr ((mode_name spot).trans mode)) recorded ?_
  intro event member
  rcases List.mem_cons.1 member with rfl | member
  · exact .read (by simp)
  · obtain ⟨sigil, span, rfl⟩ := reads event member
    exact .read (by simp)

theorem Recounts.endTerm {span : Text} (mode : before.mode = .term) :
    (before.ahead.endingTerm (settings.scope depth base) span).Recounts settings depth base text := by
  refine .outside (.inl rfl) ?_
  rw [parsed_endingTerm _ _ _ rfl, Parsed.events_adding, Parsed.events_recording,
    Parsed.events_recording]
  refine ((recounts.history (.inr mode)).plain ?_).plain ?_
  · intro event member
    obtain ⟨rejection, -, rfl⟩ := List.mem_map.1 member
    exact .rejected
  · intro event member
    rw [List.mem_singleton] at member
    subst member
    refine .read ?_
    split <;> simp

theorem Recounts.unclosed {group : OpenGroup} (whole : before.cursor.text = text)
    (mode : before.mode = .group group) (atEnd : before.cursor.rest = []) :
    (before.ahead.abort (settings.scope depth base) (.unclosedGroup group.offset)).Recounts
      settings depth base text := by
  obtain ⟨front, span, events, scanning, recorded, history⟩ := recounts.scanning mode
  have opensAt := scanning.opensAt whole
  rw [atEnd, List.append_nil] at opensAt
  refine recounts_abort rfl ?_
  rw [parsed_ahead, recorded, List.append_assoc]
  exact history.unclosed opensAt (scanning.close_of_nil atEnd)

theorem Recounts.inside {group : OpenGroup} {c : Char} (mode : before.mode = .group group)
    (atCursor : before.cursor.rest.head? = some c) (notEscape : c ≠ '\\')
    (notClosing : ¬ group.Closes c) :
    ({ before.ahead with mode := .group (group.after before.cursor.previous? c) } : Reader).Recounts
      settings depth base text := by
  obtain ⟨front, span, events, scanning, recorded, history⟩ := recounts.scanning mode
  refine .inGroup rfl (scanning.inside atCursor notEscape notClosing) ?_ history
  rw [OpenGroup.offset_after]
  exact recorded

theorem Recounts.tooDeep {group : OpenGroup} (whole : before.cursor.text = text)
    (mode : before.mode = .group group) (atCursor : before.cursor.rest.head? = some ')')
    (closes : group.Closes ')') (atLimit : (settings.scope depth base).enter? = none) :
    (before.still.abort (settings.scope depth base) (.nestedTooDeep settings.maxDepth)).Recounts
      settings depth base text := by
  obtain ⟨front, span, events, scanning, recorded, history⟩ := recounts.scanning mode
  obtain ⟨rest, isRest⟩ := List.head?_eq_some_iff.1 atCursor
  have opensAt := scanning.opensAt whole
  rw [isRest] at opensAt
  have closed : (GroupText.close? (span ++ ')' :: rest)).isSome := by
    rw [scanning.close_of_closes isRest closes]
    rfl
  refine recounts_abort rfl ?_
  rw [parsed_still, recorded, List.append_assoc]
  exact history.tooDeep opensAt closed (le_of_enter?_eq_none atLimit)

end

theorem recounts_of_move (whole : before.cursor.text = text) (known : before.cursor.span?.isSome)
    (unbroken : before.parsed.Unbroken) (inside : GroupsRecounted settings depth)
    (recounts : before.Recounts settings depth base text)
    (move : Move (settings.scope depth base) before after) :
    after.Recounts settings depth base text := by
  cases move with
  | finish mode atEnd =>
      refine .done rfl ?_
      have nothing : before.parsed.fatal? = none := unbroken.fatal?_eq
      have history := recounts.history (.inl mode)
      rw [← nothing] at history
      exact history
  | escape running atCursor => exact recounts.escape running atCursor
  | @mark c kind occur span mode atCursor mark known =>
      refine recounts.plain (.inl mode) (.inl mode) (parsed_committing _ kind span _) ?_
      cases mark <;> simpa using Event.Plain.read (by simp)
  | openGroup mode atCursor _ isOffset => exact recounts.openGroup known mode atCursor isOffset
  | beginTerm mode => exact .outside (.inr rfl) (recounts.history (.inl mode))
  | content mode => exact .outside (.inr mode) (recounts.history (.inr mode))
  | name mode _ _ _ _ _ _ spot => exact recounts.name mode spot
  | endTerm mode => exact recounts.endTerm mode
  | unclosed mode atEnd => exact recounts.unclosed whole mode atEnd
  | inside mode atCursor notEscape _ notClosing =>
      exact recounts.inside mode atCursor notEscape notClosing
  | tooDeep mode atCursor closes atLimit => exact recounts.tooDeep whole mode atCursor closes atLimit
  | @failInside _ body _ inner fatal mode atCursor closes allowed known entered failed isFatal =>
      obtain ⟨events, after, rest, recorded, history, opensAt, closed, within, told⟩ :=
        recounts_of_closed whole recounts inside mode atCursor closes allowed known entered
      rw [Parsed.fatal?_of_isFatal failed isFatal] at told
      refine recounts_abort isFatal ?_
      rw [parsed_entering, Parsed.events_entering, parsed_still, recorded]
      simpa [Settings.scope] using history.inside opensAt closed within told
  | @closeGroup group body enter inner mode atCursor closes allowed known entered notFatal =>
      obtain ⟨events, after, rest, recorded, history, opensAt, closed, within, told⟩ :=
        recounts_of_closed whole recounts inside mode atCursor closes allowed known entered
      rw [Parsed.Unbroken.fatal?_eq notFatal] at told
      refine .outside (.inl rfl) ?_
      rw [parsed_leaving, Parsed.events_recording, Parsed.events_adding, Parsed.events_entering,
        parsed_still, recorded]
      simpa [Settings.scope] using history.group opensAt closed within told

/-- Whatever a reader has come to, its events tell the history of the groups behind it. -/
theorem Reaches.recounts (inside : GroupsRecounted settings depth)
    (reached : Reaches (settings.scope depth base) (ofText text) reader) :
    reader.Recounts settings depth base text := by
  induction reached with
  | refl => exact .outside (.inl rfl) .begun
  | step reached running ran ih =>
      have sound := reached.sound
      have move := move_of_step? isSome_enter_scope sound running ran
      exact recounts_of_move (Cursor.text_of_lawful reached.lawful) sound.behind
        (reached.unbroken running) inside ih move

end

end Reader

theorem exists_end_of_unbroken {settings : Settings} {depth base : Nat} {text : Text}
    (unbroken : (parseAt settings depth base text).Unbroken) :
    ∃ last, Reader.Reaches (settings.scope depth base) (.ofText text) last ∧
      last.mode = .between ∧ last.cursor.rest = [] ∧
      last.parsed = parseAt settings depth base text := by
  obtain ⟨before, last, reached, move, done, same⟩ := exists_last_move settings depth base text
  rcases move.ends done with ⟨between, atEnd, rfl⟩ | ⟨-, fatal, failed, isFatal⟩
  · exact ⟨before, reached, between, atEnd, same⟩
  · rw [unbroken fatal ((congrArg Parsed.failure same).symm.trans failed)] at isFatal
    cases isFatal

theorem exists_end_of_fatal {settings : Settings} {depth base : Nat} {text : Text}
    {fatal : Failure} (failed : (parseAt settings depth base text).fatal? = some fatal) :
    ∃ last group, Reader.Reaches (settings.scope depth base) (.ofText text) last ∧
      last.mode = .group group ∧
      Abort settings depth last.parsed (parseAt settings depth base text) := by
  obtain ⟨before, last, reached, move, done, same⟩ := exists_last_move settings depth base text
  have unbroken := reached.unbroken move.not_done
  rw [← same] at failed ⊢
  have broken : ¬ last.parsed.Unbroken := by
    intro unbroken
    cases unbroken.fatal?_eq.symm.trans failed
  rcases move.ends done with ⟨-, -, rfl⟩ | ⟨⟨group, mode⟩, -⟩
  · exact absurd unbroken broken
  · rcases move.effect with effect | ⟨-, abort⟩
    · exact absurd (effect.unbroken unbroken) broken
    · exact ⟨before, group, reached, mode, abort⟩

/-- The log of every parse is a history of its text. -/
theorem history_parseAt (settings : Settings) (depth base : Nat) (text : Text) :
    History settings depth base text (parseAt settings depth base text).events
      (parseAt settings depth base text).fatal? := by
  refine @parseAt_induction settings
    (fun depth base text parsed => History settings depth base text parsed.events parsed.fatal?)
    ?_ depth base text
  intro depth base text inside
  obtain ⟨last, reached, done, same⟩ := exists_done_parseAt settings depth base text
  rw [← same]
  exact (reached.recounts inside).history_of_done done

end SearchQuery
