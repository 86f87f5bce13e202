import SearchQuery.Reader.Progress

/-! # Every step has a result

A reader that is begun at a text keeps its cursor behind the last commit and never closes
more parentheses of a group than were opened. Under these two conditions every step has a
result, and they hold after it.
-/

namespace SearchQuery

namespace Cursor

theorem isSome_span?_next {cursor : Cursor} (behind : cursor.span?.isSome) :
    cursor.next.2.span?.isSome := by
  obtain ⟨committed, span, rest, canBackUp⟩ := cursor
  cases rest <;> cases span <;> simp_all [next]

/-- After a character was read the cursor is not at the beginning of the text. -/
theorem pos_next_pos {cursor after : Cursor} {c : Char} (read : cursor.next = (some c, after)) :
    0 < after.pos := by
  obtain ⟨committed, span, rest, canBackUp⟩ := cursor
  have positive := c.utf8Size_pos
  cases rest with
  | nil => simp [next] at read
  | cons first others =>
    cases span <;>
      · simp only [next, Prod.mk.injEq, Option.some.injEq] at read
        obtain ⟨rfl, rfl⟩ := read
        simp only [pos, Option.getD_some, Text.byteSize_cons]
        omega

end Cursor

namespace Reader

/-- A reader whose cursor is not before its commit, and which has a parenthesis to close
whenever it is in a group. -/
structure Sound (reader : Reader) : Prop where
  behind : reader.cursor.span?.isSome
  unclosed : ∀ group, reader.mode = .group group → 0 < group.unclosed

theorem sound_ofText (text : Text) : (ofText text).Sound :=
  ⟨rfl, fun _ inGroup => by cases inGroup⟩

theorem exists_commit? (scope : Scope) (kind : SpanKind) (reader : Reader)
    (behind : reader.cursor.span?.isSome) :
    ∃ after, reader.commit? scope kind = some after ∧ after.cursor.span?.isSome ∧
      after.mode = reader.mode := by
  obtain ⟨span, known⟩ := Option.isSome_iff_exists.1 behind
  refine ⟨record scope [.read kind span.reverse] { reader with cursor := reader.cursor.commit },
    ?_, rfl, rfl⟩
  simp only [commit?, Cursor.spanText?, known, Option.map_some]

/-- Outside groups a cursor behind its commit is all that is asked of a reader. -/
theorem Sound.ofMode {reader : Reader} (behind : reader.cursor.span?.isSome)
    (outside : ∀ group, reader.mode ≠ .group group) : reader.Sound :=
  ⟨behind, fun group inGroup => absurd inGroup (outside group)⟩

theorem exists_endTerm? (scope : Scope) {reader : Reader}
    (behind : reader.cursor.span?.isSome) :
    ∃ after, reader.endTerm? scope = some after ∧ after.Sound := by
  obtain ⟨span, known⟩ := Option.isSome_iff_exists.1 behind
  obtain ⟨committed, commit, stillBehind, _⟩ := exists_commit? scope
    (if reader.field.isSome then .fieldValue else .term)
    (reader.record scope
      ((scope.settings.buildTerm reader.field reader.kind (Text.trim span.reverse)).rejections.map
        Event.rejected)) behind
  simp only [endTerm?, Cursor.value?, Cursor.spanText?, known, Option.map_some,
    Option.bind_eq_bind, Option.bind_some, commit, Option.pure_def]
  exact ⟨_, rfl, Sound.ofMode stillBehind (by simp)⟩

theorem exists_readSigil? (scope : Scope) {reader : Reader}
    (behind : reader.cursor.span?.isSome) :
    ∃ after, reader.readSigil? scope = some after ∧ after.cursor.span?.isSome ∧
      after.mode = reader.mode := by
  simp only [readSigil?, Cursor.peek_eq]
  split
  · exact ⟨_, rfl, behind, rfl⟩
  · exact exists_commit? scope _ _ behind
  · exact exists_commit? scope _ _ (Cursor.isSome_span?_next behind)

theorem exists_readFieldName? (scope : Scope) {before : Reader} {cursor : Cursor} {c : Char}
    (read : before.cursor.next = (some c, cursor)) (behind : before.cursor.span?.isSome) :
    ∃ after, readFieldName? scope c { before with cursor } = some after ∧
      after.cursor.span?.isSome ∧ after.mode = before.mode := by
  have behindNext : cursor.span?.isSome := by simpa [read] using Cursor.isSome_span?_next behind
  have restored := Cursor.backUp_next _ read
  have behindAgain : cursor.backUp.span?.isSome := by rw [restored]; exact behind
  obtain ⟨span, known⟩ := Option.isSome_iff_exists.1 behindAgain
  simp only [readFieldName?]
  split
  · exact ⟨_, rfl, behindNext, rfl⟩
  · simp only [Cursor.value?, Cursor.spanText?, known, Option.map_some, Option.bind_eq_bind,
      Option.bind_some]
    split
    · exact ⟨_, rfl, Cursor.isSome_span?_next behindAgain, rfl⟩
    · have behindName :
          (if c = ':' then cursor.backUp.next.2 else cursor.backUp).span?.isSome := by
        split
        · exact Cursor.isSome_span?_next behindAgain
        · exact behindAgain
      obtain ⟨named, commit, behindNamed, sameMode⟩ := exists_commit? scope .field
        { before with
          cursor := if c = ':' then cursor.backUp.next.2 else cursor.backUp
          field := some (Text.trim span.reverse) } behindName
      obtain ⟨after, ran, behindAfter, modeAfter⟩ := exists_readSigil? scope behindNamed
      exact ⟨after, by simp [commit, ran], behindAfter, modeAfter.trans sameMode⟩

theorem exists_stepBetween? (scope : Scope) {reader : Reader}
    (inMode : reader.mode = .between) (sound : reader.Sound) :
    ∃ after, reader.stepBetween? scope = some after ∧ after.Sound := by
  have behindNext := Cursor.isSome_span?_next sound.behind
  unfold stepBetween?
  split
  rename_i next cursor read
  rw [read] at behindNext
  have committing : ∀ kind (ahead : Reader), ahead.cursor = cursor → ahead.mode = .between →
      ∃ after, ahead.commit? scope kind = some after ∧ after.Sound := by
    intro kind ahead sameCursor sameMode
    obtain ⟨after, commit, behind, mode⟩ :=
      exists_commit? scope kind ahead (by rw [sameCursor]; exact behindNext)
    exact ⟨after, commit, Sound.ofMode behind (by simp [mode, sameMode])⟩
  split
  · exact ⟨_, rfl, Sound.ofMode behindNext (by simp)⟩
  · exact committing .blank _ rfl inMode
  · exact ⟨_, rfl, Sound.ofMode (Cursor.isSome_span?_next behindNext) (by simp [inMode])⟩
  · exact committing .must _ rfl inMode
  · exact committing .mustNot _ rfl inMode
  · have positive := Cursor.pos_next_pos read
    split
    · omega
    · obtain ⟨after, commit, sound⟩ := committing .groupOpen { reader with cursor } rfl inMode
      refine ⟨_, Option.map_eq_some_iff.2 ⟨after, commit, rfl⟩, sound.behind, ?_⟩
      intro group inGroup
      cases inGroup
      exact Nat.one_pos
  · refine ⟨_, rfl, Sound.ofMode ?_ (by simp)⟩
    rw [Cursor.backUp_next _ read]
    exact sound.behind

theorem exists_stepTerm? (scope : Scope) {reader : Reader}
    (inMode : reader.mode = .term) (sound : reader.Sound) :
    ∃ after, reader.stepTerm? scope = some after ∧ after.Sound := by
  have behindNext := Cursor.isSome_span?_next sound.behind
  unfold stepTerm?
  split
  rename_i next cursor read
  rw [read] at behindNext
  have staying : ∀ enclosure, ({ reader with cursor, enclosure } : Reader).Sound := fun _ =>
    Sound.ofMode behindNext (by simp [inMode])
  split
  · exact exists_endTerm? scope behindNext
  · exact ⟨_, rfl, Sound.ofMode (Cursor.isSome_span?_next behindNext) (by simp [inMode])⟩
  · exact ⟨_, rfl, staying _⟩
  · exact ⟨_, rfl, staying _⟩
  · split
    · exact exists_endTerm? scope behindNext
    · exact ⟨_, rfl, staying _⟩
  · split
    · exact ⟨_, rfl, staying _⟩
    · split
      · obtain ⟨after, ran, behind, mode⟩ := exists_readFieldName? scope read sound.behind
        exact ⟨after, ran, Sound.ofMode behind (by simp [mode, inMode])⟩
      · exact ⟨_, rfl, staying _⟩

theorem exists_endGroup? {scope : Scope} {before : Reader} {cursor : Cursor} {c : Char}
    (canEnter : ∀ enter, scope.enter? = some enter → ∀ base body, (enter base body).isSome)
    (occur : Occur) (read : before.cursor.next = (some c, cursor))
    (behind : before.cursor.span?.isSome) :
    ∃ after, endGroup? scope occur { before with cursor } = some after ∧ after.Sound := by
  have restored := Cursor.backUp_next _ read
  have behindAgain : cursor.backUp.span?.isSome := by rw [restored]; exact behind
  obtain ⟨span, known⟩ := Option.isSome_iff_exists.1 behindAgain
  have leaving : ∀ attached : Reader, attached.cursor = cursor.backUp →
      ∃ after, endGroup?.leave scope attached = some after ∧ after.Sound := by
    intro attached same
    obtain ⟨after, commit, behindAfter, mode⟩ := exists_commit? scope .groupClose
      { attached with cursor := attached.cursor.next.2, mode := .between }
      (Cursor.isSome_span?_next (by rw [same]; exact behindAgain))
    exact ⟨after, commit, Sound.ofMode behindAfter (by simp [mode])⟩
  simp only [endGroup?, Cursor.spanText?, known, Option.map_some, Option.bind_eq_bind,
    Option.bind_some, Option.pure_def]
  split
  · exact ⟨_, rfl, Sound.ofMode behindAgain (by simp [abort, record])⟩
  · rename_i enter entering
    obtain ⟨inner, parsed⟩ := Option.isSome_iff_exists.1 (canEnter enter entering
      (scope.base + cursor.backUp.start) span.reverse)
    simp only [parsed, Option.bind_some]
    split
    · exact leaving _ rfl
    · exact ⟨_, rfl, Sound.ofMode behindAgain (by simp [abort, record])⟩
    · exact leaving _ rfl

theorem exists_stepGroup? {scope : Scope} {group : OpenGroup} {reader : Reader}
    (canEnter : ∀ enter, scope.enter? = some enter → ∀ base body, (enter base body).isSome)
    (inMode : reader.mode = .group group) (sound : reader.Sound) :
    ∃ after, reader.stepGroup? scope group = some after ∧ after.Sound := by
  have behindNext := Cursor.isSome_span?_next sound.behind
  have unclosed := sound.unclosed group inMode
  unfold stepGroup?
  split
  rename_i next cursor read
  rw [read] at behindNext
  have same : ({ reader with cursor } : Reader).Sound :=
    ⟨behindNext, fun other inOther => sound.unclosed other inOther⟩
  have changing : ∀ changed : OpenGroup, 0 < changed.unclosed →
      ({ reader with cursor, mode := .group changed } : Reader).Sound := by
    intro changed positive
    refine ⟨behindNext, fun other inOther => ?_⟩
    cases inOther
    exact positive
  split
  · exact ⟨_, rfl, Sound.ofMode behindNext (by simp [abort, record])⟩
  · exact ⟨_, rfl, Cursor.isSome_span?_next behindNext, same.unclosed⟩
  · split
    · exact ⟨_, rfl, same⟩
    · exact ⟨_, rfl, changing _ (Nat.succ_pos _)⟩
  · split
    · exact ⟨_, rfl, same⟩
    · split
      · omega
      · exact exists_endGroup? canEnter _ read sound.behind
      · exact ⟨_, rfl, changing _ (Nat.succ_pos _)⟩
  · split
    · exact ⟨_, rfl, changing _ unclosed⟩
    · exact ⟨_, rfl, same⟩

/-- A sound reader has a next step, after which it is sound. -/
theorem exists_step? {scope : Scope} {reader : Reader}
    (canEnter : ∀ enter, scope.enter? = some enter → ∀ base body, (enter base body).isSome)
    (sound : reader.Sound) : ∃ after, reader.step? scope = some after ∧ after.Sound := by
  unfold step?
  split
  · exact exists_stepBetween? scope (by assumption) sound
  · exact exists_stepTerm? scope (by assumption) sound
  · exact exists_stepGroup? canEnter (by assumption) sound
  · exact ⟨_, rfl, sound⟩

end Reader

end SearchQuery
