import SearchQuery.Proofs.Run

/-! # The moves of a reader

`Move` lists what a step can be: what the reader is in the middle of, what is at the cursor,
and the reader that comes out. A reader whose cursor is behind its commit has exactly one
move, and that is its step. Facts about runs are proved by cases on moves and not by going
through the steps again.
-/

namespace SearchQuery

/-- The signs and spaces between clauses: what each is read as, and how the next clause will
occur after it. -/
inductive Mark (occur : Occur) : Char → SpanKind → Occur → Prop where
  | blank : Mark occur ' ' .blank occur
  | must : Mark occur '+' .must .must
  | mustNot : Mark occur '-' .mustNot .mustNot

/-- The enclosure of a term after a character other than a backslash. -/
def Enclosure.after (atStart : Bool) (c : Char) (enclosure : Option Enclosure) :
    Option Enclosure :=
  if c = '(' then enclosure.map Enclosure.opened
  else if c = ')' then enclosure.bind Enclosure.closed?
  else if Text.isQuote c then Reader.quoteInTerm atStart c enclosure
  else enclosure

namespace OpenGroup

/-- Whether the character closes the group. -/
def Closes (group : OpenGroup) (c : Char) : Prop :=
  c = ')' ∧ group.quote = none ∧ group.unclosed = 1

/-- The group after a character other than a backslash that does not close it. -/
def after (previous : Option Char) (c : Char) (group : OpenGroup) : OpenGroup :=
  if Text.isQuote c then { group with quote := Reader.quoteInGroup previous c group.quote }
  else if group.quote.isSome then group
  else if c = '(' then { group with unclosed := group.unclosed + 1 }
  else if c = ')' then { group with unclosed := group.unclosed - 1 }
  else group

theorem offset_after (previous : Option Char) (c : Char) (group : OpenGroup) :
    (group.after previous c).offset = group.offset := by
  simp only [after]
  repeat' split
  all_goals rfl

theorem occur_after (previous : Option Char) (c : Char) (group : OpenGroup) :
    (group.after previous c).occur = group.occur := by
  simp only [after]
  repeat' split
  all_goals rfl

theorem unclosed_after_pos {previous : Option Char} {c : Char} {group : OpenGroup}
    (positive : 0 < group.unclosed) (notClosing : ¬ group.Closes c) :
    0 < (group.after previous c).unclosed := by
  simp only [after]
  split
  · exact positive
  split
  · exact positive
  split
  · exact Nat.succ_pos _
  split
  · rename_i quoted notOpening isClosing
    have unquoted : group.quote = none := by simpa using quoted
    have more : group.unclosed ≠ 1 := fun last => notClosing ⟨isClosing, unquoted, last⟩
    simp only
    omega
  · exact positive

theorem isQuote_of_quote_after {previous : Option Char} {c mark : Char} {group : OpenGroup}
    (quoted : ∀ mark, group.quote = some mark → Text.isQuote mark)
    (opened : (group.after previous c).quote = some mark) : Text.isQuote mark := by
  by_cases isQuote : Text.isQuote c
  · simp only [after, isQuote, ↓reduceIte, Reader.quoteInGroup] at opened
    split at opened
    · rename_i opening isOpen
      rw [← isOpen] at opened
      split at opened
      · cases opened
      · exact quoted mark opened
    · split at opened
      · cases opened
      · cases opened
        exact isQuote
  · apply quoted
    rw [← opened]
    simp only [after, isQuote, Bool.false_eq_true, ↓reduceIte]
    repeat' split
    all_goals rfl

end OpenGroup

namespace Cursor

variable {cursor : Cursor} {c : Char}

theorem next_eq (cursor : Cursor) : cursor.next = (cursor.rest.head?, cursor.next.2) := by
  obtain ⟨committed, span, rest, canBackUp⟩ := cursor
  cases rest <;> cases span <;> rfl

theorem rest_next_of_cons {more : Text} (atCursor : cursor.rest = c :: more) :
    cursor.next.2.rest = more := by
  rw [rest_next, atCursor, List.tail_cons]

theorem next_of_head? (atCursor : cursor.rest.head? = some c) :
    cursor.next = (some c, cursor.next.2) := by
  rw [next_eq, atCursor]

theorem backUp_next_of_head? (atCursor : cursor.rest.head? = some c) :
    cursor.next.2.backUp = { cursor with canBackUp := false } :=
  backUp_next cursor (next_of_head? atCursor)

theorem next_still_of_head? (atCursor : cursor.rest.head? = some c) :
    { cursor with canBackUp := false }.next = cursor.next := by
  obtain ⟨committed, span, rest, canBackUp⟩ := cursor
  obtain ⟨others, rfl⟩ := List.head?_eq_some_iff.1 atCursor
  cases span <;> rfl

theorem spanText?_next_of_nil (atEnd : cursor.rest = []) :
    cursor.next.2.spanText? = cursor.spanText? := by
  obtain ⟨committed, span, rest, canBackUp⟩ := cursor
  subst atEnd
  rfl

theorem spanText?_next (atCursor : cursor.rest.head? = some c) {span : Text}
    (read : cursor.spanText? = some span) : cursor.next.2.spanText? = some (span ++ [c]) := by
  obtain ⟨committed, old, rest, canBackUp⟩ := cursor
  obtain ⟨others, rfl⟩ := List.head?_eq_some_iff.1 atCursor
  cases old with
  | none => cases read
  | some old =>
      simp only [spanText?, Option.map_some, Option.some.injEq] at read
      simp [spanText?, next, read]

theorem spanText?_escape (atCursor : cursor.rest.head? = some '\\') {span : Text}
    (known : cursor.spanText? = some span) :
    (cursor.next.2.next.2.rest = [] ∧
      cursor.next.2.next.2.spanText? = some (span ++ ['\\'])) ∨
    ∃ c, cursor.next.2.next.2.spanText? = some (span ++ ['\\', c]) := by
  obtain ⟨rest, isRest⟩ := List.head?_eq_some_iff.1 atCursor
  have isAhead : cursor.next.2.rest = rest := rest_next_of_cons isRest
  have read := spanText?_next atCursor known
  cases rest with
  | nil =>
      left
      exact ⟨(rest_next _).trans (congrArg List.tail isAhead),
        (spanText?_next_of_nil isAhead).trans read⟩
  | cons c rest =>
      right
      have atNext : cursor.next.2.rest.head? = some c := by rw [isAhead, List.head?_cons]
      have readBoth := spanText?_next atNext read
      rw [List.append_assoc] at readBoth
      exact ⟨c, readBoth⟩

theorem isSome_span?_of_spanText? {span : Text} (known : cursor.spanText? = some span) :
    cursor.span?.isSome := by
  rw [← Option.isSome_map, ← spanText?, known]
  rfl

theorem exists_spanText? (behind : cursor.span?.isSome) : ∃ span, cursor.spanText? = some span := by
  obtain ⟨span, isSpan⟩ := Option.isSome_iff_exists.1 behind
  exact ⟨span.reverse, by rw [spanText?, isSpan, Option.map_some]⟩

theorem previous?_next (atCursor : cursor.rest.head? = some c) :
    cursor.next.2.previous? = some c := by
  obtain ⟨committed, span, rest, canBackUp⟩ := cursor
  obtain ⟨others, rfl⟩ := List.head?_eq_some_iff.1 atCursor
  cases span <;> rfl

end Cursor

namespace Reader

/-- The reader after the next character. -/
def ahead (reader : Reader) : Reader := { reader with cursor := reader.cursor.next.2 }

/-- The reader after a character that was read and given back. -/
def still (reader : Reader) : Reader :=
  { reader with cursor := { reader.cursor with canBackUp := false } }

/-- The reader after a commit of the span behind the cursor. -/
def committing (scope : Scope) (kind : SpanKind) (span : Text) (reader : Reader) : Reader :=
  record scope [.read kind span] { reader with cursor := reader.cursor.commit }

theorem commit?_of_spanText? {scope : Scope} {kind : SpanKind} {reader : Reader} {span : Text}
    (known : reader.cursor.spanText? = some span) :
    reader.commit? scope kind = some (reader.committing scope kind span) := by
  simp only [commit?, known, Option.map_some, committing]

/-- The reader after the name of a field, with the sigil at the cursor if there is one. -/
def sigilled (scope : Scope) (reader : Reader) : Reader :=
  match reader.cursor.rest.head?.bind Sigil.ofChar? with
  | none => reader.still
  | some .freeText =>
    committing scope (.sigil .freeText) []
      { reader.still with kind := .sigil .freeText, enclosure := some (.parens 0) }
  | some sigil =>
    committing scope (.sigil sigil) (reader.cursor.rest.take 1)
      { reader.ahead with kind := .sigil sigil }

/-- The reader after a term whose text is the span. -/
def endingTerm (scope : Scope) (span : Text) (reader : Reader) : Reader :=
  let built := scope.settings.buildTerm reader.field reader.kind (Text.trim span)
  let kind := if reader.field.isSome then SpanKind.fieldValue else SpanKind.term
  let noted := reader.record scope (built.rejections.map Event.rejected)
  { ((noted.committing scope kind span).report built.failure?).attach reader.occur built.clause with
    mode := .between }

/-- The reader at the end of a group whose body has been parsed. -/
def entering (scope : Scope) (body : Text) (inner : Parsed) (reader : Reader) : Reader :=
  let entered := reader.record scope [.groupEntered body (scope.depth + 1)]
  { entered with log := inner.log.reverse ++ entered.log }

/-- The reader behind a group whose clause is attached. -/
def leaving (scope : Scope) (occur : Occur) (body : Text) (inner : Parsed) (reader : Reader) :
    Reader :=
  let attached := ((reader.entering scope body inner).report inner.failure).attach occur
    inner.clauses.toClause
  committing scope .groupClose (body ++ [')']) { attached.ahead with mode := .between }

/-- What one step of a reader that is not done can be. -/
inductive Move (scope : Scope) (before : Reader) : Reader → Prop where
  | finish : before.mode = .between → before.cursor.rest = [] →
      Move scope before { before.ahead with mode := .done }
  | escape : before.mode ≠ .done → before.cursor.rest.head? = some '\\' →
      Move scope before before.ahead.ahead
  | mark {c : Char} {kind : SpanKind} {occur : Occur} {span : Text} :
      before.mode = .between → before.cursor.rest.head? = some c →
      Mark before.occur c kind occur → before.ahead.cursor.spanText? = some span →
      Move scope before (committing scope kind span { before.ahead with occur })
  | openGroup {span : Text} {offset : Nat} :
      before.mode = .between → before.cursor.rest.head? = some '(' →
      before.ahead.cursor.spanText? = some span →
      scope.base + before.ahead.cursor.pos = offset + 1 →
      Move scope before (record scope [.groupOpened offset (scope.depth + 1)]
        { committing scope .groupOpen span before.ahead with
          mode := .group { occur := before.occur, offset } })
  | beginTerm {c : Char} :
      before.mode = .between → before.cursor.rest.head? = some c →
      c ∉ [' ', '\\', '+', '-', '('] → Move scope before { before.still with mode := .term }
  | content {c : Char} :
      before.mode = .term → before.cursor.rest.head? = some c → c ≠ '\\' →
      (c = ' ' → before.enclosure.isSome) →
      (isFieldDelimiter c → before.enclosure.isSome ∨ before.field.isSome ∨
        before.cursor.value? = some []) →
      Move scope before { before.ahead with
        enclosure := Enclosure.after before.cursor.atSpanStart c before.enclosure }
  | name {c : Char} {name span : Text} {named : Reader} :
      before.mode = .term → before.cursor.rest.head? = some c → isFieldDelimiter c →
      before.enclosure = none → before.field = none →
      before.cursor.value? = some name → name ≠ [] →
      named = (if c = ':' then before.ahead else before.still) →
      named.cursor.spanText? = some span →
      Move scope before ((committing scope .field span { named with field := some name }).sigilled
        scope)
  | endTerm {span : Text} :
      before.mode = .term →
      before.cursor.rest = [] ∨ before.cursor.rest.head? = some ' ' ∧ before.enclosure = none →
      before.ahead.cursor.spanText? = some span →
      Move scope before (before.ahead.endingTerm scope span)
  | unclosed {group : OpenGroup} :
      before.mode = .group group → before.cursor.rest = [] →
      Move scope before (before.ahead.abort scope (.unclosedGroup group.offset))
  | inside {group : OpenGroup} {c : Char} :
      before.mode = .group group → before.cursor.rest.head? = some c → c ≠ '\\' →
      0 < group.unclosed → ¬ group.Closes c →
      Move scope before { before.ahead with
        mode := .group (group.after before.cursor.previous? c) }
  | tooDeep {group : OpenGroup} :
      before.mode = .group group → before.cursor.rest.head? = some ')' → group.Closes ')' →
      scope.enter? = none → before.cursor.span?.isSome →
      Move scope before (before.still.abort scope (.nestedTooDeep scope.settings.maxDepth))
  | failInside {group : OpenGroup} {body : Text} {enter : Nat → Text → Option Parsed}
      {inner : Parsed} {fatal : Failure} :
      before.mode = .group group → before.cursor.rest.head? = some ')' → group.Closes ')' →
      scope.enter? = some enter → before.cursor.spanText? = some body →
      enter (scope.base + before.cursor.start) body = some inner →
      inner.failure = some fatal → fatal.isFatal →
      Move scope before ((before.still.entering scope body inner).abort scope fatal)
  | closeGroup {group : OpenGroup} {body : Text} {enter : Nat → Text → Option Parsed}
      {inner : Parsed} :
      before.mode = .group group → before.cursor.rest.head? = some ')' → group.Closes ')' →
      scope.enter? = some enter → before.cursor.spanText? = some body →
      enter (scope.base + before.cursor.start) body = some inner →
      (∀ failure, inner.failure = some failure → failure.isFatal = false) →
      Move scope before (before.still.leaving scope group.occur body inner)

theorem Move.not_done {scope : Scope} {before after : Reader} (move : Move scope before after) :
    before.mode ≠ .done := by
  intro done
  cases move with
  | escape running => exact running done
  | finish mode | mark mode | openGroup mode | beginTerm mode | content mode | name mode
  | endTerm mode | unclosed mode | inside mode | tooDeep mode | failInside mode
  | closeGroup mode => cases mode.symm.trans done

/-! ## Steps by the character at the cursor -/

theorem stepBetween?_eq (scope : Scope) (reader : Reader) :
    reader.stepBetween? scope =
      match reader.cursor.rest.head? with
      | none => some { reader.ahead with mode := .done }
      | some ' ' => reader.ahead.commit? scope .blank
      | some '\\' => some reader.ahead.ahead
      | some '+' => commit? scope .must { reader.ahead with occur := .must }
      | some '-' => commit? scope .mustNot { reader.ahead with occur := .mustNot }
      | some '(' =>
        match scope.base + reader.ahead.cursor.pos with
        | 0 => none
        | offset + 1 =>
          (reader.ahead.commit? scope .groupOpen).map fun committed =>
            record scope [.groupOpened offset (scope.depth + 1)]
              { committed with mode := .group { occur := reader.occur, offset } }
      | some _ => some { reader with cursor := reader.cursor.next.2.backUp, mode := .term } := by
  rw [stepBetween?, Cursor.next_eq]
  rfl

theorem stepTerm?_eq (scope : Scope) (reader : Reader) :
    reader.stepTerm? scope =
      match reader.cursor.rest.head? with
      | none => reader.ahead.endTerm? scope
      | some '\\' => some reader.ahead.ahead
      | some '(' => some { reader.ahead with enclosure := reader.enclosure.map Enclosure.opened }
      | some ')' => some { reader.ahead with enclosure := reader.enclosure.bind Enclosure.closed? }
      | some ' ' =>
        if reader.enclosure.isNone then reader.ahead.endTerm? scope else some reader.ahead
      | some c =>
        if Text.isQuote c then
          some { reader.ahead with
            enclosure := quoteInTerm reader.cursor.atSpanStart c reader.enclosure }
        else if isFieldDelimiter c then reader.ahead.readFieldName? scope c
        else some reader.ahead := by
  rw [stepTerm?, Cursor.next_eq]
  rfl

theorem stepGroup?_eq (scope : Scope) (group : OpenGroup) (reader : Reader) :
    reader.stepGroup? scope group =
      match reader.cursor.rest.head? with
      | none => some (reader.ahead.abort scope (.unclosedGroup group.offset))
      | some '\\' => some reader.ahead.ahead
      | some '(' =>
        if group.quote.isSome then some reader.ahead
        else some { reader.ahead with mode := .group { group with unclosed := group.unclosed + 1 } }
      | some ')' =>
        if group.quote.isSome then some reader.ahead
        else
          match group.unclosed with
          | 0 => none
          | 1 => reader.ahead.endGroup? scope group.occur
          | unclosed + 2 =>
            some { reader.ahead with mode := .group { group with unclosed := unclosed + 1 } }
      | some c =>
        if Text.isQuote c then
          some { reader.ahead with mode := .group { group with
            quote := quoteInGroup reader.cursor.previous? c group.quote } }
        else some reader.ahead := by
  rw [stepGroup?, Cursor.next_eq]
  rfl

theorem readSigil?_eq {scope : Scope} {reader : Reader} (fresh : reader.cursor.span? = some []) :
    reader.readSigil? scope = some (reader.sigilled scope) := by
  obtain ⟨⟨committed, span, rest, canBackUp⟩, mode, clauses, occur, field, kind, enclosure,
    failure, log⟩ := reader
  simp only at fresh
  subst fresh
  simp only [readSigil?, Cursor.peek_eq, sigilled]
  cases rest with
  | nil => rfl
  | cons c rest =>
      simp only [List.head?_cons, Option.bind_some]
      cases Sigil.ofChar? c with
      | none => rfl
      | some sigil => cases sigil <;> rfl

theorem endTerm?_of_spanText? {scope : Scope} {reader : Reader} {span : Text}
    (known : reader.cursor.spanText? = some span) :
    reader.endTerm? scope = some (reader.endingTerm scope span) := by
  have noted : ∀ events kind, (reader.record scope events).commit? scope kind =
      some ((reader.record scope events).committing scope kind span) := by
    intro events kind
    exact commit?_of_spanText? known
  simp only [endTerm?, Cursor.value?, known, Option.map_some, Option.bind_eq_bind,
    Option.bind_some, noted, Option.pure_def, endingTerm]

theorem readFieldName?_eq {scope : Scope} {reader : Reader} {c : Char}
    (atCursor : reader.cursor.rest.head? = some c) :
    reader.ahead.readFieldName? scope c =
      if reader.enclosure.isSome || reader.field.isSome then some reader.ahead
      else reader.cursor.value?.bind fun name =>
        if name.isEmpty then some reader.ahead
        else (commit? scope .field { (if c = ':' then reader.ahead else reader.still) with
          field := some name }).bind (readSigil? scope) := by
  have restored : reader.ahead.cursor.backUp = { reader.cursor with canBackUp := false } :=
    Cursor.backUp_next_of_head? atCursor
  have again := Cursor.next_still_of_head? atCursor
  simp only [readFieldName?, restored, again, Option.bind_eq_bind]
  by_cases isColon : c = ':' <;> simp only [isColon, ↓reduceIte] <;> rfl

theorem report_none (reader : Reader) : reader.report none = reader := by
  cases reader with
  | mk cursor mode clauses occur field kind enclosure failure log =>
      cases failure <;> rfl

theorem leave_eq {scope : Scope} {attached : Reader} {body : Text}
    (atCursor : attached.cursor.rest.head? = some ')')
    (known : attached.cursor.spanText? = some body) :
    endGroup?.leave scope attached =
      some (committing scope .groupClose (body ++ [')']) { attached.ahead with mode := .between }) := by
  rw [endGroup?.leave]
  exact commit?_of_spanText? (Cursor.spanText?_next atCursor known)

theorem endGroup?_eq {scope : Scope} {occur : Occur} {reader : Reader}
    (atCursor : reader.cursor.rest.head? = some ')') {body : Text}
    (known : reader.cursor.spanText? = some body) :
    reader.ahead.endGroup? scope occur =
      match scope.enter? with
      | none => some (reader.still.abort scope (.nestedTooDeep scope.settings.maxDepth))
      | some enter =>
        (enter (scope.base + reader.cursor.start) body).bind fun inner =>
          match inner.failure with
          | none => some (reader.still.leaving scope occur body inner)
          | some failure =>
            if failure.isFatal then
              some ((reader.still.entering scope body inner).abort scope failure)
            else some (reader.still.leaving scope occur body inner) := by
  have restored : reader.ahead.cursor.backUp = { reader.cursor with canBackUp := false } :=
    Cursor.backUp_next_of_head? atCursor
  have stillKnown : { reader.cursor with canBackUp := false }.spanText? = some body := known
  have stillStart : { reader.cursor with canBackUp := false }.start = reader.cursor.start := rfl
  simp only [endGroup?, restored, stillKnown, stillStart, Option.bind_eq_bind, Option.bind_some,
    Option.pure_def]
  cases scope.enter? with
  | none => rfl
  | some enter =>
      simp only
      cases enter (scope.base + reader.cursor.start) body with
      | none => rfl
      | some inner =>
          simp only [Option.bind_some]
          cases failed : inner.failure with
          | none =>
              simp only [leaving, failed, report_none]
              exact leave_eq atCursor known
          | some failure =>
              cases failure with
              | unclosedGroup | nestedTooDeep => rfl
              | rejected rejection =>
                  simp only [leaving, failed, Failure.isFatal, Bool.false_eq_true, ↓reduceIte]
                  exact leave_eq atCursor known

theorem stepTerm?_of_content {scope : Scope} {reader : Reader} {c : Char}
    (atCursor : reader.cursor.rest.head? = some c) (notEscape : c ≠ '\\')
    (spaceInside : c = ' ' → reader.enclosure.isSome)
    (isValue : isFieldDelimiter c → reader.ahead.readFieldName? scope c = some reader.ahead) :
    reader.stepTerm? scope = some { reader.ahead with
      enclosure := Enclosure.after reader.cursor.atSpanStart c reader.enclosure } := by
  simp only [stepTerm?_eq, atCursor]
  split
  · rename_i absent
    cases absent
  · rename_i isEscape
    cases isEscape
    exact absurd rfl notEscape
  · rename_i isOpening
    cases isOpening
    rfl
  · rename_i isClosing
    cases isClosing
    rfl
  · rename_i isSpace
    cases isSpace
    have inside := spaceInside rfl
    simp only [Option.isNone_iff_eq_none, Option.ne_none_iff_isSome.2 inside, ↓reduceIte]
    rfl
  · rename_i notOpening notClosing notSpace same
    cases same
    simp only [Enclosure.after, if_neg notOpening, if_neg notClosing]
    split
    · rfl
    · split
      · rename_i delimiter
        exact isValue delimiter
      · rfl

theorem stepGroup?_of_inside {scope : Scope} {group : OpenGroup} {reader : Reader} {c : Char}
    (mode : reader.mode = .group group) (atCursor : reader.cursor.rest.head? = some c)
    (notEscape : c ≠ '\\') (positive : 0 < group.unclosed) (notClosing : ¬ group.Closes c) :
    reader.stepGroup? scope group = some { reader.ahead with
      mode := .group (group.after reader.cursor.previous? c) } := by
  have staying : { reader.ahead with mode := .group group } = reader.ahead := by
    rw [← mode]
    rfl
  simp only [stepGroup?_eq, atCursor]
  split
  · rename_i absent
    cases absent
  · rename_i isEscape
    cases isEscape
    exact absurd rfl notEscape
  · rename_i isOpening
    cases isOpening
    cases quote : group.quote with
    | none => simp [OpenGroup.after, quote, Text.isQuote]
    | some mark => simp [OpenGroup.after, quote, Text.isQuote, staying]
  · rename_i isClosing
    cases isClosing
    cases quote : group.quote with
    | none =>
        simp only [OpenGroup.Closes, quote, true_and] at notClosing
        obtain ⟨count, more⟩ : ∃ count, group.unclosed = count + 2 :=
          ⟨group.unclosed - 2, by omega⟩
        simp [OpenGroup.after, quote, Text.isQuote, more]
    | some mark => simp [OpenGroup.after, quote, Text.isQuote, staying]
  · rename_i notOpening notClosing same
    cases same
    simp only [OpenGroup.after, if_neg notOpening, if_neg notClosing, ite_self]
    split
    · rfl
    · exact congrArg some staying.symm

theorem stepTerm?_of_delimiter {scope : Scope} {reader : Reader} {c : Char}
    (atCursor : reader.cursor.rest.head? = some c) (delimiter : isFieldDelimiter c) :
    reader.stepTerm? scope = reader.ahead.readFieldName? scope c := by
  simp only [isFieldDelimiter, List.mem_cons, List.not_mem_nil, or_false,
    decide_eq_true_eq] at delimiter
  simp only [stepTerm?_eq, atCursor]
  rcases delimiter with rfl | rfl | rfl | rfl | rfl <;> rfl

/-- Every move is the step of its reader. -/
theorem step?_of_move {scope : Scope} {before after : Reader} (move : Move scope before after) :
    before.step? scope = some after := by
  cases move with
  | finish mode atEnd => simp only [step?, mode, stepBetween?_eq, atEnd, List.head?_nil]
  | escape running atCursor =>
      cases mode : before.mode with
      | done => exact absurd mode running
      | between => simp only [step?, mode, stepBetween?_eq, atCursor]
      | term => simp only [step?, mode, stepTerm?_eq, atCursor]
      | group group => simp only [step?, mode, stepGroup?_eq, atCursor]
  | mark mode atCursor mark span =>
      cases mark <;>
        · simp only [step?, mode, stepBetween?_eq, atCursor]
          exact commit?_of_spanText? span
  | openGroup mode atCursor span offset =>
      simp only [step?, mode, stepBetween?_eq, atCursor, offset, commit?_of_spanText? span,
        Option.map_some]
  | beginTerm mode atCursor other =>
      simp only [List.mem_cons, List.not_mem_nil, or_false, not_or] at other
      simp only [step?, mode, stepBetween?_eq, atCursor, Cursor.backUp_next_of_head? atCursor]
      split <;> simp_all [still]
  | @content c mode atCursor notEscape spaceInside delimiterInside =>
      rw [step?, mode]
      apply stepTerm?_of_content atCursor notEscape spaceInside
      intro delimiter
      rw [readFieldName?_eq atCursor]
      rcases delimiterInside delimiter with inside | named | unnamed
      · simp only [inside, Bool.true_or, ↓reduceIte]
      · simp only [named, Bool.or_true, ↓reduceIte]
      · simp only [unnamed, Option.bind_some, List.isEmpty_nil, ↓reduceIte, ite_self]
  | @name c name span named mode atCursor delimiter outside noField value nonempty spot known =>
      rw [step?, mode]
      simp only [stepTerm?_of_delimiter atCursor delimiter, readFieldName?_eq atCursor, outside,
        noField, value, Option.isSome_none, Bool.or_self, Bool.false_eq_true, ↓reduceIte,
        Option.bind_some, List.isEmpty_iff, nonempty, ← spot]
      rw [commit?_of_spanText? (by exact known), Option.bind_some]
      exact readSigil?_eq rfl
  | endTerm mode atEnd span =>
      simp only [step?, mode, stepTerm?_eq]
      rcases atEnd with atEnd | ⟨atSpace, outside⟩
      · simp only [atEnd, List.head?_nil, endTerm?_of_spanText? span]
      · simp only [atSpace, outside, Option.isNone_none, ↓reduceIte, endTerm?_of_spanText? span]
  | unclosed mode atEnd => simp only [step?, mode, stepGroup?_eq, atEnd, List.head?_nil]
  | @inside group c mode atCursor notEscape positive notClosing =>
      rw [step?, mode]
      exact stepGroup?_of_inside mode atCursor notEscape positive notClosing
  | tooDeep mode atCursor closing atLimit behind =>
      obtain ⟨span, known⟩ := Option.isSome_iff_exists.1 behind
      obtain ⟨-, unquoted, last⟩ := closing
      simp only [step?, mode, stepGroup?_eq, atCursor, unquoted, last, Option.isSome_none,
        Bool.false_eq_true, ↓reduceIte]
      rw [endGroup?_eq atCursor (by rw [Cursor.spanText?, known, Option.map_some]), atLimit]
  | failInside mode atCursor closing allowed known entered failed fatal =>
      obtain ⟨-, unquoted, last⟩ := closing
      simp only [step?, mode, stepGroup?_eq, atCursor, unquoted, last, Option.isSome_none,
        Bool.false_eq_true, ↓reduceIte]
      rw [endGroup?_eq atCursor known, allowed]
      simp only [entered, Option.bind_some, failed, fatal, ↓reduceIte]
  | @closeGroup group body enter inner mode atCursor closing allowed known entered notFatal =>
      obtain ⟨-, unquoted, last⟩ := closing
      simp only [step?, mode, stepGroup?_eq, atCursor, unquoted, last, Option.isSome_none,
        Bool.false_eq_true, ↓reduceIte]
      rw [endGroup?_eq atCursor known, allowed]
      simp only [entered, Option.bind_some]
      cases failed : inner.failure with
      | none => rfl
      | some failure => simp only [notFatal failure failed, Bool.false_eq_true, ↓reduceIte]

theorem Reaches.move {scope : Scope} {before after : Reader} (move : Move scope before after) :
    Reaches scope before after := .single move.not_done (step?_of_move move)

theorem exists_move_between {scope : Scope} {reader : Reader} (mode : reader.mode = .between)
    {span : Text} (known : reader.cursor.spanText? = some span) :
    ∃ after, Move scope reader after := by
  cases atCursor : reader.cursor.rest.head? with
  | none => exact ⟨_, .finish mode (List.head?_eq_none_iff.1 atCursor)⟩
  | some c =>
      have read := Cursor.spanText?_next atCursor known
      by_cases special : c ∈ [' ', '\\', '+', '-', '(']
      · simp only [List.mem_cons, List.not_mem_nil, or_false] at special
        rcases special with rfl | rfl | rfl | rfl | rfl
        · exact ⟨_, .mark mode atCursor .blank read⟩
        · exact ⟨_, .escape (by simp [mode]) atCursor⟩
        · exact ⟨_, .mark mode atCursor .must read⟩
        · exact ⟨_, .mark mode atCursor .mustNot read⟩
        · have positive : 0 < reader.ahead.cursor.pos :=
            Cursor.pos_next_pos (Cursor.next_of_head? atCursor)
          obtain ⟨offset, isOffset⟩ : ∃ offset, scope.base + reader.ahead.cursor.pos = offset + 1 :=
            ⟨scope.base + reader.ahead.cursor.pos - 1, by omega⟩
          exact ⟨_, .openGroup mode atCursor read isOffset⟩
      · exact ⟨_, .beginTerm mode atCursor special⟩

theorem exists_move_term {scope : Scope} {reader : Reader} (mode : reader.mode = .term)
    {span : Text} (known : reader.cursor.spanText? = some span) :
    ∃ after, Move scope reader after := by
  cases atCursor : reader.cursor.rest.head? with
  | none =>
      have atEnd := List.head?_eq_none_iff.1 atCursor
      exact ⟨_, .endTerm mode (.inl atEnd) ((Cursor.spanText?_next_of_nil atEnd).trans known)⟩
  | some c =>
      have read := Cursor.spanText?_next atCursor known
      by_cases isEscape : c = '\\'
      · subst isEscape
        exact ⟨_, .escape (by simp [mode]) atCursor⟩
      by_cases ends : c = ' ' ∧ reader.enclosure = none
      · obtain ⟨rfl, outside⟩ := ends
        exact ⟨_, .endTerm mode (.inr ⟨atCursor, outside⟩) read⟩
      have spaceInside : c = ' ' → reader.enclosure.isSome := by
        intro isSpace
        exact Option.ne_none_iff_isSome.1 fun outside => ends ⟨isSpace, outside⟩
      by_cases names : isFieldDelimiter c ∧ reader.enclosure = none ∧ reader.field = none ∧
          Text.trim span ≠ []
      · obtain ⟨delimiter, outside, noField, nonempty⟩ := names
        have value : reader.cursor.value? = some (Text.trim span) := by
          rw [Cursor.value?, known, Option.map_some]
        by_cases isColon : c = ':'
        · exact ⟨_, .name mode atCursor delimiter outside noField value nonempty rfl
            (by rw [if_pos isColon]; exact read)⟩
        · exact ⟨_, .name mode atCursor delimiter outside noField value nonempty rfl
            (by rw [if_neg isColon]; exact known)⟩
      · refine ⟨_, .content mode atCursor isEscape spaceInside fun delimiter => ?_⟩
        rw [Cursor.value?, known, Option.map_some]
        cases inside : reader.enclosure with
        | some _ => exact .inl rfl
        | none =>
            cases named : reader.field with
            | some _ => exact .inr (.inl rfl)
            | none =>
                have unnamed : Text.trim span = [] := Decidable.byContradiction fun nonempty =>
                  names ⟨delimiter, inside, named, nonempty⟩
                exact .inr (.inr (congrArg some unnamed))

theorem exists_move_group {scope : Scope} {reader : Reader} {group : OpenGroup}
    (canEnter : ∀ enter, scope.enter? = some enter → ∀ base body, (enter base body).isSome)
    (mode : reader.mode = .group group) (positive : 0 < group.unclosed) {span : Text}
    (known : reader.cursor.spanText? = some span) : ∃ after, Move scope reader after := by
  cases atCursor : reader.cursor.rest.head? with
  | none => exact ⟨_, .unclosed mode (List.head?_eq_none_iff.1 atCursor)⟩
  | some c =>
      by_cases isEscape : c = '\\'
      · subst isEscape
        exact ⟨_, .escape (by simp [mode]) atCursor⟩
      by_cases closing : group.Closes c
      · obtain ⟨rfl, quoted, last⟩ := closing
        have closes : group.Closes ')' := ⟨rfl, quoted, last⟩
        cases allowed : scope.enter? with
        | none =>
            have behind : reader.cursor.span?.isSome := Cursor.isSome_span?_of_spanText? known
            exact ⟨_, .tooDeep mode atCursor closes allowed behind⟩
        | some enter =>
            obtain ⟨inner, entered⟩ := Option.isSome_iff_exists.1
              (canEnter enter allowed (scope.base + reader.cursor.start) span)
            by_cases fails : ∃ fatal, inner.failure = some fatal ∧ fatal.isFatal
            · obtain ⟨fatal, failed, isFatal⟩ := fails
              exact ⟨_, .failInside mode atCursor closes allowed known entered failed isFatal⟩
            · refine ⟨_, .closeGroup mode atCursor closes allowed known entered ?_⟩
              intro failure failed
              exact Bool.eq_false_iff.2 fun isFatal => fails ⟨failure, failed, isFatal⟩
      · exact ⟨_, .inside mode atCursor isEscape positive closing⟩

theorem exists_move {scope : Scope} {reader : Reader}
    (canEnter : ∀ enter, scope.enter? = some enter → ∀ base body, (enter base body).isSome)
    (sound : reader.Sound) (running : reader.mode ≠ .done) : ∃ after, Move scope reader after := by
  obtain ⟨span, known⟩ := Cursor.exists_spanText? sound.behind
  cases mode : reader.mode with
  | between => exact exists_move_between mode known
  | term => exact exists_move_term mode known
  | group group => exact exists_move_group canEnter mode (sound.unclosed group mode) known
  | done => exact absurd mode running

/-- There is only one move from a reader. -/
theorem Move.unique {scope : Scope} {before after other : Reader} (move : Move scope before after)
    (otherMove : Move scope before other) : after = other :=
  Option.some.inj ((step?_of_move move).symm.trans (step?_of_move otherMove))

/-- The step of a sound reader is a move. -/
theorem move_of_step? {scope : Scope} {before after : Reader}
    (canEnter : ∀ enter, scope.enter? = some enter → ∀ base body, (enter base body).isSome)
    (sound : before.Sound) (running : before.mode ≠ .done) (ran : before.step? scope = some after) :
    Move scope before after := by
  obtain ⟨other, move⟩ := exists_move canEnter sound running
  have same : some other = some after := (step?_of_move move).symm.trans ran
  cases same
  exact move

end Reader

end SearchQuery
