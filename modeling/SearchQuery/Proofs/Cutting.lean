import SearchQuery.Proofs.Framing
import SearchQuery.Proofs.Opening

/-! # Parsing the front of a text

A text may be cut where a reader of it is between two clauses: up to there its front is read as the
whole is, step by step, because no step in front of the cut looks behind it. A failure that ends
the reading leaves of a text what its front is parsed to, up to the group that the failure is in.
-/

namespace SearchQuery

variable {settings : Settings} {depth base : Nat}

namespace Reader

variable {reader before after : Reader} {front behind rest span : Text}

theorem suffix_sigilled (scope : Scope) (reader : Reader) :
    (reader.sigilled scope).cursor.rest <:+ reader.cursor.rest := by
  simp only [sigilled]
  split
  · exact List.suffix_refl _
  · exact List.suffix_refl _
  · exact (Cursor.rest_next _).symm ▸ List.tail_suffix _

theorem Move.suffix {scope : Scope} (move : Move scope before after) :
    after.cursor.rest <:+ before.cursor.rest := by
  have ahead : ∀ cursor : Cursor, cursor.next.2.rest <:+ cursor.rest := by
    intro cursor
    rw [Cursor.rest_next]
    exact List.tail_suffix _
  cases move with
  | finish | mark | openGroup | content | endTerm | unclosed | inside | closeGroup => exact ahead _
  | escape => exact (ahead _).trans (ahead _)
  | beginTerm | tooDeep | failInside => exact List.suffix_refl _
  | @name c name span named mode atCursor delimiter outside noField value nonempty spot known =>
      refine (suffix_sigilled _ _).trans ?_
      subst spot
      change (if c = ':' then before.ahead else before.still).cursor.rest <:+ _
      split
      · exact ahead _
      · exact List.suffix_refl _

theorem Move.term_of_colon {scope : Scope} (move : Move scope before after)
    (mode : before.mode = .term) (atColon : before.cursor.rest.head? = some ':') :
    after.mode = .term := by
  cases move with
  | finish other | mark other | openGroup other | beginTerm other | unclosed other | inside other
  | tooDeep other | failInside other | closeGroup other => cases mode.symm.trans other
  | escape _ atCursor => cases atColon.symm.trans atCursor
  | content => exact mode
  | name _ _ _ _ _ _ _ spot => exact (mode_name spot).trans mode
  | endTerm _ atEnd =>
      rcases atEnd with atEnd | ⟨atSpace, -⟩
      · rw [atEnd] at atColon
        cases atColon
      · cases atColon.symm.trans atSpace

theorem front_ne_nil_of_step (nonempty : behind ≠ []) (running : before.mode ≠ .done)
    (move : Move (settings.scope depth base) before after)
    (isBefore : before.cursor.rest = front ++ behind) (isAfter : after.cursor.rest = rest ++ behind)
    (inFront : rest ≠ [] ∨ after.mode = .between) : front ≠ [] := by
  -- No step that leads to a cut, or stays in front of it, begins behind the front.
  rintro rfl
  have shorter := move.suffix.length_le
  rw [isBefore, isAfter, List.nil_append, List.length_append] at shorter
  have atCut : rest = [] := List.length_eq_zero_iff.1 (by omega)
  have between := inFront.resolve_left (absurd atCut)
  -- Between clauses in front of a character there are the most steps still to come.
  have progress := remaining_lt_of_step? running (step?_of_move move)
  have bound := before.mode.weight_le_two before.cursor.rest
  obtain ⟨c, others, rfl⟩ := List.exists_cons_of_ne_nil nonempty
  have most : Mode.weight .between (c :: others) = 2 := rfl
  simp only [remaining, isBefore, isAfter, atCut, between, List.nil_append, most] at progress bound
  omega

/-- A reader of the front alone does not look behind the cut if the one of the whole text is in
front of the cut even after its step. -/
theorem within_of_step {alone : Reader} (nonempty : behind ≠ []) (running : before.mode ≠ .done)
    (move : Move (settings.scope depth base) before after)
    (isFramed : alone.Framed { behind } before) (isAfter : after.cursor.rest = rest ++ behind)
    (inFront : rest ≠ [] ∨ after.mode = .between) :
    alone.Within { behind } := by
  have isBefore := isFramed.cursor.rest
  refine .inr ⟨front_ne_nil_of_step nonempty running move isBefore isAfter inFront, ?_, ?_⟩
  · intro last
    rw [last] at isBefore
    have atBackslash : before.cursor.rest.head? = some '\\' := by
      rw [isBefore]
      rfl
    have escape : Move (settings.scope depth base) before before.ahead.ahead :=
      .escape running atBackslash
    have isBehind : after.cursor.rest = behind.tail := by
      rw [move.unique escape, ahead, Cursor.rest_next, ahead, Cursor.rest_next_of_cons isBefore]
      rfl
    have lengths := congrArg List.length (isAfter.symm.trans isBehind)
    have positive := List.length_pos_iff.2 nonempty
    simp only [List.length_append, List.length_tail] at lengths
    omega
  · intro aloneMode last
    rw [last] at isBefore
    have mode : before.mode = .term := isFramed.mode.trans (congrArg _ aloneMode)
    have atColon : before.cursor.rest.head? = some ':' := by
      rw [isBefore]
      rfl
    have stillTerm := move.term_of_colon mode atColon
    have left : rest ≠ [] := inFront.resolve_right (by simp [stillTerm])
    obtain ⟨c, others, rfl⟩ := List.exists_cons_of_ne_nil left
    have progress := remaining_lt_of_step? running (step?_of_move move)
    simp only [remaining, isBefore, isAfter, mode, stillTerm, Mode.weight, List.cons_append,
      List.length_cons, List.length_append, List.nil_append] at progress
    exact absurd progress (by omega)

/-- The front of a text is read as the whole text is. -/
theorem Reaches.exists_alone (nonempty : behind ≠ [])
    (reached : Reaches (settings.scope depth base) (ofText (front ++ behind)) reader)
    (isRest : reader.cursor.rest = rest ++ behind) (inFront : rest ≠ [] ∨ reader.mode = .between) :
    ∃ alone, Reaches (settings.scope depth base) (ofText front) alone ∧
      alone.Framed { behind } reader := by
  induction reached generalizing rest with
  | refl =>
      exact ⟨ofText front, .refl,
        { cursor := ⟨rfl, rfl, rfl⟩
          mode := rfl, occur := rfl, field := rfl, kind := rfl, enclosure := rfl, parsed := rfl }⟩
  | @step before after reached running ran ih =>
      have move := move_of_step? isSome_enter_scope reached.sound running ran
      obtain ⟨read, isBefore⟩ := move.suffix
      rw [isRest, ← List.append_assoc] at isBefore
      have left := front_ne_nil_of_step nonempty running move isBefore.symm isRest inFront
      obtain ⟨alone, aloneReached, isFramed⟩ := ih isBefore.symm (.inl left)
      have aloneRunning : alone.mode ≠ .done := by
        intro done
        rw [isFramed.mode, done] at running
        exact running rfl
      obtain ⟨next, aloneMove⟩ := exists_move isSome_enter_scope aloneReached.sound aloneRunning
      have within := within_of_step nonempty running move isFramed isRest inFront
      obtain ⟨framed, wholeMove, nextFramed⟩ := @Move.inFrame settings depth base base { behind }
        alone next before rfl (groupsShifted settings {} depth) within
        (aloneReached.regular (regular_ofText front)).begun (aloneReached.unbroken aloneRunning)
        isFramed aloneMove
      have same : framed = after := wholeMove.unique move
      rw [same] at nextFramed
      exact ⟨next, aloneReached.trans (.move aloneMove), nextFramed⟩

theorem Framed.mode_eq_between {frame : Frame} {framed : Reader}
    (isFramed : reader.Framed frame framed) (between : framed.mode = .between) :
    reader.mode = .between := by
  have mode := isFramed.mode.symm.trans between
  cases isMode : reader.mode with
  | between => rfl
  | term | group | done => rw [isMode] at mode; cases mode

theorem Opening.parsed_eq {text : Text}
    (isOpening : reader.Opening settings depth base text front behind span) :
    reader.parsed = parseAt settings depth base front := by
  have reached := isOpening.reached
  rw [isOpening.text_eq] at reached
  have atCut : reader.cursor.rest = [] ++ '(' :: behind := isOpening.rest
  obtain ⟨alone, aloneReached, isFramed⟩ :=
    reached.exists_alone (List.cons_ne_nil _ _) atCut (.inr isOpening.mode)
  have atEnd : alone.cursor.rest = [] :=
    List.append_cancel_right (isFramed.cursor.rest.symm.trans atCut)
  have finish : Move (settings.scope depth base) alone _ :=
    .finish (isFramed.mode_eq_between isOpening.mode) atEnd
  rw [← (aloneReached.trans (.move finish)).parsed_of_done rfl, isFramed.parsed,
    Parsed.empty_joined, Parsed.shifted_zero]
  rfl

end Reader

/-- What is left of a query whose reading was ended is what the query is parsed to up to the group,
among those that lie in no other, that was opened last. Nothing but refused values is wrong with
that part, and the log of the whole goes on behind what happened in it. -/
theorem ended_parse_keeps_front (settings : Settings) (query : Text) {fatal : Failure}
    (failed : (parse settings query).failure = some fatal) (isFatal : fatal.isFatal) :
    ∃ front behind span offset later,
      query = front ++ '(' :: behind ∧ Text.byteSize front = offset ∧
      (parse settings query).events =
        (parse settings front).events ++ .read .groupOpen span :: .groupOpened offset 1 :: later ∧
      (∀ other, .groupOpened other 1 ∉ later) ∧
      (parse settings query).clauses = (parse settings front).clauses ∧
      ∀ failure, (parse settings front).failure = some failure →
        ∃ rejection, failure = .rejected rejection := by
  obtain ⟨opening, front, behind, span, isOpening, abort⟩ :=
    exists_opening_of_fatal (fatal?_eq_some_iff.2 ⟨failed, isFatal⟩)
  obtain ⟨later, events, noneOpened⟩ := abort.exists_events
  have unbroken := isOpening.reached.unbroken (by simp [isOpening.mode])
  have same : opening.parsed = parse settings front := isOpening.parsed_eq
  rw [same] at abort events unbroken
  refine ⟨front, behind, span, _, later, isOpening.text_eq, rfl, ?_, noneOpened,
    abort.clauses_eq, ?_⟩
  · rw [parse, events, Parsed.opening, Parsed.events_recording, Nat.zero_add, List.append_assoc]
    rfl
  · intro failure frontFailed
    have notFatal := unbroken failure frontFailed
    cases failure with
    | rejected rejection => exact ⟨rejection, rfl⟩
    | unclosedGroup | nestedTooDeep => cases notFatal

/-- Of the outer group of `é (a (b))` nothing is left when the inner one is too deep. -/
theorem ended_parse_keeps_front_of_outer_group :
    let settings : Settings := { maxDepth := 1 }
    let query : Text := ['é', ' ', '(', 'a', ' ', '(', 'b', ')', ')']
    (parse settings query).failure = some (.nestedTooDeep 1) ∧
    ∃ front behind, query = front ++ '(' :: behind ∧
      .groupOpened (Text.byteSize front) 1 ∈ (parse settings query).events ∧
      (parse settings query).clauses = (parse settings front).clauses := by
  intro settings query
  have failed : (parse settings query).failure = some (.nestedTooDeep 1) := by decide +kernel
  obtain ⟨front, behind, span, offset, later, isQuery, rfl, events, -, clauses, -⟩ :=
    ended_parse_keeps_front settings query failed rfl
  exact ⟨failed, front, behind, isQuery, by simp [events], clauses⟩

end SearchQuery
