import SearchQuery.Proofs.Closing
import SearchQuery.Proofs.RoundTrip

/-! # The first group of a text

Where no clause has been read before it, what a group comes to is settled by the text behind its
parenthesis. The reader comes to the parenthesis that closes it, and then there are three ways on:
the group lies too deep, its own text ends the reading, or it becomes the first clause. If none
closes it the reader comes to the end of the text.
-/

namespace SearchQuery.Reader

variable {settings : Settings} {depth base : Nat} {clauses : Clauses} {occur : Occur}
  {front text body following : Text} {reader : Reader}

/-- The reader of a text that stands behind the front of it and has read no clause yet. -/
structure Begun (settings : Settings) (depth base : Nat) (front : Text) (occur : Occur)
    (rest : Text) (reader : Reader) : Prop where
  reached : Reaches (settings.scope depth base) (ofText (front ++ rest)) reader
  ready : reader.Ready {} none occur rest

theorem begun_ofText (settings : Settings) (depth base : Nat) (text : Text) :
    (ofText text).Begun settings depth base [] .should text :=
  ⟨.refl, ready_ofText text⟩

theorem Begun.mark {c : Char} {kind : SpanKind} {next : Occur} {rest : Text}
    (begun : reader.Begun settings depth base front occur (c :: rest))
    (mark : Mark occur c kind next) :
    ∃ after, Reaches (settings.scope depth base) reader after ∧
      after.Begun settings depth base (front ++ [c]) next rest := by
  obtain ⟨after, reached, ready⟩ := begun.ready.mark (settings.scope depth base) mark
  refine ⟨after, reached, ?_, ready⟩
  rw [List.append_assoc]
  exact begun.reached.trans reached

/-! ## Groups that are closed -/

/-- The reader of a text in front of the parenthesis that closes its first group. -/
structure AtClosing (settings : Settings) (depth base : Nat) (front : Text) (occur : Occur)
    (body following : Text) (reader : Reader) : Prop where
  reached : Reaches (settings.scope depth base)
    (ofText (front ++ '(' :: body ++ [')'] ++ following)) reader
  group : ∃ group, reader.mode = .group group ∧ group.Closes ')' ∧ group.occur = occur
  rest : reader.cursor.rest = ')' :: following
  known : reader.cursor.spanText? = some body
  clauses : reader.clauses = {}
  failure : reader.failure = none

theorem Begun.exists_atClosing (begun : reader.Begun settings depth base front occur ('(' :: text))
    (closed : GroupText.close? text = some (body, following)) :
    ∃ closing, Reaches (settings.scope depth base) reader closing ∧
      closing.AtClosing settings depth base front occur body following := by
  obtain ⟨group, closing, reached, mode, closes, isOccur, rest, known, clauses, failure⟩ :=
    begun.ready.reaches_end (settings.scope depth base) closed
  have isText : front ++ '(' :: text = front ++ '(' :: body ++ [')'] ++ following := by
    simp [GroupText.eq_append_of_close? closed]
  have whole := begun.reached.trans reached
  rw [isText] at whole
  exact ⟨closing, reached, whole, ⟨group, mode, closes, isOccur⟩, rest, known, clauses, failure⟩

theorem AtClosing.start_eq
    (atClosing : reader.AtClosing settings depth base front occur body following) :
    reader.cursor.start = Text.byteSize front + 1 := by
  obtain ⟨before, isText, start⟩ := Cursor.exists_text_eq_of_spanText? atClosing.known
  have whole := isText.symm.trans (Cursor.text_of_lawful atClosing.reached.lawful)
  have cancelled : before ++ (body ++ ')' :: following) =
      (front ++ ['(']) ++ (body ++ ')' :: following) := by
    rw [atClosing.rest] at whole
    simpa using whole
  rw [← start, List.append_cancel_right cancelled, Text.byteSize_append]
  rfl

theorem AtClosing.ends_tooDeep
    (atClosing : reader.AtClosing settings depth base front occur body following)
    (tooDeep : settings.maxDepth ≤ depth) :
    reader.Ends (settings.scope depth base) {} (some (.nestedTooDeep settings.maxDepth)) := by
  obtain ⟨group, mode, closes, -⟩ := atClosing.group
  have atCursor : reader.cursor.rest.head? = some ')' := by rw [atClosing.rest]; rfl
  have move : Move (settings.scope depth base) reader _ :=
    .tooDeep mode atCursor closes (enter?_scope_of_le tooDeep)
      (Cursor.isSome_span?_of_spanText? atClosing.known)
  exact ⟨_, .move move, rfl, atClosing.clauses, rfl⟩

theorem AtClosing.ends_failed {fatal : Failure}
    (atClosing : reader.AtClosing settings depth base front occur body following)
    (allowed : depth < settings.maxDepth)
    (failed : (parseAt settings (depth + 1) (base + (Text.byteSize front + 1)) body).failure =
      some fatal) (isFatal : fatal.isFatal) :
    reader.Ends (settings.scope depth base) {} (some fatal) := by
  obtain ⟨group, mode, closes, -⟩ := atClosing.group
  have atCursor : reader.cursor.rest.head? = some ')' := by rw [atClosing.rest]; rfl
  rw [← atClosing.start_eq] at failed
  have move : Move (settings.scope depth base) reader _ :=
    .failInside mode atCursor closes (enter?_scope_of_lt allowed) atClosing.known rfl failed isFatal
  exact ⟨_, .move move, rfl, atClosing.clauses, rfl⟩

theorem AtClosing.exists_ready
    (atClosing : reader.AtClosing settings depth base front occur body following)
    (allowed : depth < settings.maxDepth) {inner : Parsed}
    (isInner : parseAt settings (depth + 1) (base + (Text.byteSize front + 1)) body = inner)
    (unbroken : inner.Unbroken) :
    ∃ after, Reaches (settings.scope depth base) reader after ∧
      after.Ready (Clauses.add {} occur inner.clauses.toClause) inner.failure .should
        following := by
  obtain ⟨group, mode, closes, isOccur⟩ := atClosing.group
  have atCursor : reader.cursor.rest.head? = some ')' := by rw [atClosing.rest]; rfl
  rw [← atClosing.start_eq] at isInner
  have move : Move (settings.scope depth base) reader _ :=
    .closeGroup mode atCursor closes (enter?_scope_of_lt allowed) atClosing.known
      (congrArg some isInner) unbroken
  have ready := ready_leaving (settings.scope depth base) group.occur body inner atClosing.rest
  rw [isOccur, atClosing.clauses, atClosing.failure] at ready
  rw [isOccur] at move
  exact ⟨_, .move move, ready⟩

/-! ## Groups that are not closed -/

/-- A reader in a group of its text that is not closed there. -/
structure LeftOpen (base : Nat) (front text : Text) (clauses : Clauses) (reader : Reader) :
    Prop where
  lawful : Cursor.Lawful (front ++ '(' :: text) reader.cursor
  group : ∃ group span, reader.mode = .group group ∧ reader.Scanning base front span group
  clauses : reader.clauses = clauses

/-- The group is left open up to the end of the text, where that is reported. -/
theorem LeftOpen.move {before after : Reader} (unclosed : GroupText.close? text = none)
    (leftOpen : before.LeftOpen base front text clauses)
    (move : Move (settings.scope depth base) before after) :
    after.LeftOpen base front text clauses ∨ after.mode = .done ∧ after.clauses = clauses ∧
      after.failure = some (.unclosedGroup (base + Text.byteSize front)) := by
  obtain ⟨lawful, ⟨group, span, mode, scanning⟩, clauses⟩ := leftOpen
  have stillLawful := lawful_of_move lawful move
  have whole := scanning.text_eq.symm.trans (Cursor.text_of_lawful lawful)
  have isText : span ++ before.cursor.rest = text :=
    (List.cons.inj (List.append_cancel_left whole)).2
  have notClosing : ∀ other : OpenGroup, before.mode = .group other → other.Closes ')' →
      before.cursor.rest.head? ≠ some ')' := by
    intro other isOther closes atCursor
    cases isOther.symm.trans mode
    obtain ⟨following, isRest⟩ := List.head?_eq_some_iff.1 atCursor
    have closed := scanning.close_of_closes isRest closes
    rw [← isRest, isText, unclosed] at closed
    cases closed
  cases move with
  | finish isMode | mark isMode | openGroup isMode | beginTerm isMode | content isMode
  | name isMode | endTerm isMode => cases isMode.symm.trans mode
  | escape _ atCursor =>
      obtain ⟨span, scanning⟩ := scanning.escape atCursor
      exact .inl ⟨stillLawful, ⟨group, span, mode, scanning⟩, clauses⟩
  | inside isMode atCursor notEscape positive stays =>
      cases isMode.symm.trans mode
      exact .inl ⟨stillLawful, ⟨_, _, rfl, scanning.inside atCursor notEscape stays⟩, clauses⟩
  | unclosed isMode atEnd =>
      cases isMode.symm.trans mode
      refine .inr ⟨rfl, clauses, ?_⟩
      rw [← scanning.offset]
      rfl
  | tooDeep isMode atCursor closes | failInside isMode atCursor closes
  | closeGroup isMode atCursor closes => exact absurd atCursor (notClosing _ isMode closes)

theorem LeftOpen.ends {reader : Reader} (unclosed : GroupText.close? text = none)
    (leftOpen : reader.LeftOpen base front text clauses) (sound : reader.Sound) :
    reader.Ends (settings.scope depth base) clauses
      (some (.unclosedGroup (base + Text.byteSize front))) := by
  have running : reader.mode ≠ .done := by
    obtain ⟨group, span, mode, -⟩ := leftOpen.group
    rw [mode]
    rintro ⟨⟩
  obtain ⟨after, move⟩ :=
    @exists_move (settings.scope depth base) reader isSome_enter_scope sound running
  rcases leftOpen.move unclosed move with leftOpen | ⟨done, clauses, failure⟩
  · exact (leftOpen.ends unclosed (move.sound sound)).after (.move move)
  · exact ⟨after, .move move, done, clauses, failure⟩
termination_by reader.remaining
decreasing_by exact remaining_lt_of_step? running (step?_of_move move)

theorem Begun.ends_unclosed (begun : reader.Begun settings depth base front occur ('(' :: text))
    (unclosed : GroupText.close? text = none) :
    reader.Ends (settings.scope depth base) {}
      (some (.unclosedGroup (base + Text.byteSize front))) := by
  obtain ⟨offset, opened, opens, mode, -, nothing, atBody, clauses, -⟩ :=
    begun.ready.opensGroup (settings.scope depth base)
  have reached := begun.reached.trans (.move opens)
  have inside : GroupsRecounted settings depth :=
    fun _ start body => history_parseAt settings _ start body
  obtain ⟨before, span, -, scanning, -⟩ := (reached.recounts inside).scanning mode
  cases scanning.known.symm.trans nothing
  have whole := scanning.text_eq.symm.trans (Cursor.text_of_lawful reached.lawful)
  rw [atBody, List.nil_append] at whole
  obtain rfl : before = front := List.append_cancel_right whole
  have leftOpen : opened.LeftOpen base before text {} :=
    ⟨reached.lawful, ⟨_, _, mode, scanning⟩, clauses⟩
  exact (leftOpen.ends unclosed reached.sound).after (.move opens)

end SearchQuery.Reader
