import SearchQuery.Reader

/-! # Every step makes progress

What is left to do shrinks with every step: a step takes a character off the rest of the
text, or it changes to a mode from which fewer steps follow without reading. So a reader
that goes on stepping is done at last.
-/

namespace SearchQuery

/-- The steps that can follow in a mode before a character is read. -/
def Mode.weight : Mode → (rest : Text) → Nat
  | .between, [] => 1
  | .between, _ :: _ => 2
  | .term, [] => 2
  | .term, _ :: _ => 1
  | .group _, _ => 1
  | .done, _ => 0

theorem Mode.weight_le_two (mode : Mode) (rest : Text) : mode.weight rest ≤ 2 := by
  cases mode <;> cases rest <;> simp [weight]

namespace Cursor

@[simp] theorem rest_next (cursor : Cursor) : cursor.next.2.rest = cursor.rest.tail := by
  obtain ⟨committed, span, rest, canBackUp⟩ := cursor
  cases rest <;> cases span <;> rfl

@[simp] theorem rest_commit (cursor : Cursor) : cursor.commit.rest = cursor.rest := rfl

/-- The character that `next` gives is the one that it takes off the rest. -/
theorem rest_of_next {cursor after : Cursor} {c : Char} (read : cursor.next = (some c, after)) :
    cursor.rest = c :: after.rest := by
  obtain ⟨committed, span, rest, canBackUp⟩ := cursor
  cases rest <;> cases span <;> simp_all [next] <;> grind

theorem rest_of_next_none {cursor after : Cursor} (read : cursor.next = (none, after)) :
    cursor.rest = [] ∧ after.rest = [] := by
  obtain ⟨committed, span, rest, canBackUp⟩ := cursor
  cases rest <;> cases span <;> simp_all [next] <;> grind

end Cursor

namespace Reader

/-- A bound on the number of steps that are left. -/
def remaining (reader : Reader) : Nat :=
  3 * reader.cursor.rest.length + reader.mode.weight reader.cursor.rest

/-- Taking at least one character is progress, whatever the modes. -/
theorem remaining_lt_of_length_lt {before after : Reader} (running : before.mode ≠ .done)
    (shorter : after.cursor.rest.length < before.cursor.rest.length) :
    after.remaining < before.remaining := by
  have bound := after.mode.weight_le_two after.cursor.rest
  have positive : 0 < before.mode.weight before.cursor.rest := by
    cases h : before.mode <;> cases before.cursor.rest <;> simp_all [Mode.weight]
  simp only [remaining]
  omega

/-- Finishing without reading is progress, and so is finishing after reading. -/
theorem remaining_lt_of_done {before after : Reader} (running : before.mode ≠ .done)
    (finished : after.mode = .done)
    (notLonger : after.cursor.rest.length ≤ before.cursor.rest.length) :
    after.remaining < before.remaining := by
  have positive : 0 < before.mode.weight before.cursor.rest := by
    cases h : before.mode <;> cases before.cursor.rest <;> simp_all [Mode.weight]
  have idle : Mode.weight .done after.cursor.rest = 0 := rfl
  simp only [remaining, finished, idle]
  omega

theorem rest_of_commit? {scope : Scope} {kind : SpanKind} {before after : Reader}
    (committed : before.commit? scope kind = some after) :
    after.cursor.rest = before.cursor.rest ∧ after.mode = before.mode := by
  simp only [commit?, Option.map_eq_some_iff] at committed
  obtain ⟨_, _, rfl⟩ := committed
  exact ⟨rfl, rfl⟩

theorem rest_of_endTerm? {scope : Scope} {before after : Reader}
    (ended : before.endTerm? scope = some after) :
    after.cursor.rest = before.cursor.rest ∧ after.mode = .between := by
  simp only [endTerm?, Option.bind_eq_bind, Option.bind_eq_some_iff, Option.pure_def,
    Option.some.injEq] at ended
  obtain ⟨_, _, committed, commit, rfl⟩ := ended
  exact ⟨(rest_of_commit? commit).1, rfl⟩

theorem remaining_lt_of_endTerm? {scope : Scope} {before after : Reader} {cursor : Cursor}
    (inTerm : before.mode = .term) (notLonger : cursor.rest.length < before.cursor.rest.length ∨
      before.cursor.rest = [] ∧ cursor.rest = [])
    (ended : { before with cursor }.endTerm? scope = some after) :
    after.remaining < before.remaining := by
  obtain ⟨sameRest, between⟩ := rest_of_endTerm? ended
  rcases notLonger with shorter | ⟨atEnd, stillAtEnd⟩
  · exact remaining_lt_of_length_lt (by simp [inTerm]) (by simpa [sameRest] using shorter)
  · simp [remaining, sameRest, between, inTerm, atEnd, stillAtEnd, Mode.weight]

theorem rest_of_readSigil? {scope : Scope} {before after : Reader}
    (ran : before.readSigil? scope = some after) :
    after.cursor.rest.length ≤ before.cursor.rest.length := by
  simp only [readSigil?, Cursor.peek_eq] at ran
  split at ran
  · cases ran
    exact Nat.le_refl _
  · simp [(rest_of_commit? ran).1]
  · simp [(rest_of_commit? ran).1]

/-- A sigil at the cursor that is not a parenthesis is read. -/
theorem rest_of_readSigil?_of_sigil {scope : Scope} {before after : Reader} {c : Char}
    {rest : Text} {sigil : Sigil} (atCursor : before.cursor.rest = c :: rest)
    (isSigil : Sigil.ofChar? c = some sigil) (closed : sigil ≠ .freeText)
    (ran : before.readSigil? scope = some after) : after.cursor.rest = rest := by
  simp only [readSigil?, Cursor.peek_eq, atCursor, List.head?_cons, Option.bind_some,
    isSigil] at ran
  simp [(rest_of_commit? ran).1]

/-- A delimiter other than the colon is a sigil. -/
theorem ofChar?_of_isFieldDelimiter {c : Char} (delimiter : isFieldDelimiter c = true)
    (notColon : c ≠ ':') : ∃ sigil, Sigil.ofChar? c = some sigil ∧ sigil ≠ .freeText := by
  simp only [isFieldDelimiter, List.mem_cons, List.not_mem_nil, or_false,
    decide_eq_true_eq] at delimiter
  rcases delimiter with rfl | rfl | rfl | rfl | rfl
  · exact absurd rfl notColon
  · exact ⟨.keyword, rfl, by decide⟩
  · exact ⟨.regex, rfl, by decide⟩
  · exact ⟨.below, rfl, by decide⟩
  · exact ⟨.above, rfl, by decide⟩

theorem rest_of_readFieldName? {scope : Scope} {before after : Reader} {cursor : Cursor}
    {c : Char} (read : before.cursor.next = (some c, cursor))
    (delimiter : isFieldDelimiter c = true)
    (ran : readFieldName? scope c { before with cursor } = some after) :
    after.cursor.rest.length < before.cursor.rest.length := by
  have restBefore := Cursor.rest_of_next read
  have restored := Cursor.backUp_next _ read
  simp only [readFieldName?, restored] at ran
  split at ran
  · cases ran
    simp [restBefore]
  · simp only [Option.bind_eq_bind, Option.bind_eq_some_iff] at ran
    obtain ⟨name, _, ran⟩ := ran
    split at ran
    · cases ran
      simp [restBefore]
    · simp only [Option.bind_eq_some_iff] at ran
      obtain ⟨named, committed, ran⟩ := ran
      have restNamed := (rest_of_commit? committed).1
      by_cases isColon : c = ':'
      · simp only [isColon, ↓reduceIte, Cursor.rest_next] at restNamed
        have bound := rest_of_readSigil? ran
        simp only [restNamed, restBefore, List.tail_cons, List.length_cons] at bound ⊢
        omega
      · simp only [isColon, ↓reduceIte] at restNamed
        obtain ⟨sigil, isSigil, closed⟩ := ofChar?_of_isFieldDelimiter delimiter isColon
        rw [rest_of_readSigil?_of_sigil (restNamed.trans restBefore) isSigil closed ran,
          restBefore]
        simp

theorem remaining_lt_of_stepBetween? {scope : Scope} {before after : Reader}
    (inMode : before.mode = .between) (ran : before.stepBetween? scope = some after) :
    after.remaining < before.remaining := by
  have running : before.mode ≠ .done := by simp [inMode]
  have shorterOf : ∀ {c cursor}, before.cursor.next = (some c, cursor) →
      cursor.rest.length < before.cursor.rest.length := by
    intro c cursor read
    simp [Cursor.rest_of_next read]
  unfold stepBetween? at ran
  split at ran
  rename_i next cursor read
  split at ran
  · cases ran
    obtain ⟨atEnd, stillAtEnd⟩ := Cursor.rest_of_next_none read
    exact remaining_lt_of_done running rfl (by simp [atEnd, stillAtEnd])
  · exact remaining_lt_of_length_lt running
      (by simpa [(rest_of_commit? ran).1] using shorterOf read)
  · cases ran
    have := shorterOf read
    exact remaining_lt_of_length_lt running (by simp; omega)
  · exact remaining_lt_of_length_lt running
      (by simpa [(rest_of_commit? ran).1] using shorterOf read)
  · exact remaining_lt_of_length_lt running
      (by simpa [(rest_of_commit? ran).1] using shorterOf read)
  · split at ran
    · cases ran
    · simp only [Option.map_eq_some_iff] at ran
      obtain ⟨committed, commit, rfl⟩ := ran
      exact remaining_lt_of_length_lt running
        (by simpa [record, (rest_of_commit? commit).1] using shorterOf read)
  · cases ran
    simp [remaining, inMode, Cursor.backUp_next _ read, Cursor.rest_of_next read, Mode.weight]

theorem remaining_lt_of_stepTerm? {scope : Scope} {before after : Reader}
    (inMode : before.mode = .term) (ran : before.stepTerm? scope = some after) :
    after.remaining < before.remaining := by
  have running : before.mode ≠ .done := by simp [inMode]
  have shorterOf : ∀ {c cursor}, before.cursor.next = (some c, cursor) →
      cursor.rest.length < before.cursor.rest.length := by
    intro c cursor read
    simp [Cursor.rest_of_next read]
  unfold stepTerm? at ran
  split at ran
  rename_i next cursor read
  split at ran
  · exact remaining_lt_of_endTerm? inMode (.inr (Cursor.rest_of_next_none read)) ran
  · cases ran
    have := shorterOf read
    exact remaining_lt_of_length_lt running (by simp; omega)
  · cases ran
    exact remaining_lt_of_length_lt running (shorterOf read)
  · cases ran
    exact remaining_lt_of_length_lt running (shorterOf read)
  · split at ran
    · exact remaining_lt_of_endTerm? inMode (.inl (shorterOf read)) ran
    · cases ran
      exact remaining_lt_of_length_lt running (shorterOf read)
  · split at ran
    · cases ran
      exact remaining_lt_of_length_lt running (shorterOf read)
    · split at ran
      · rename_i delimiter
        exact remaining_lt_of_length_lt running (rest_of_readFieldName? read delimiter ran)
      · cases ran
        exact remaining_lt_of_length_lt running (shorterOf read)

theorem remaining_lt_of_endGroup? {scope : Scope} {before after : Reader} {cursor : Cursor}
    {occur : Occur} {c : Char} (running : before.mode ≠ .done)
    (read : before.cursor.next = (some c, cursor))
    (ran : endGroup? scope occur { before with cursor } = some after) :
    after.remaining < before.remaining := by
  have restored := Cursor.backUp_next _ read
  have restBefore := Cursor.rest_of_next read
  have leaving : ∀ {attached}, attached.cursor.rest = before.cursor.rest →
      endGroup?.leave scope attached = some after → after.remaining < before.remaining := by
    intro attached same left
    refine remaining_lt_of_length_lt running ?_
    simp [(rest_of_commit? left).1, same, restBefore]
  simp only [endGroup?, restored, Option.bind_eq_bind, Option.bind_eq_some_iff,
    Option.pure_def] at ran
  obtain ⟨body, _, ran⟩ := ran
  split at ran
  · cases ran
    exact remaining_lt_of_done running rfl (Nat.le_refl _)
  · simp only [Option.bind_eq_some_iff] at ran
    obtain ⟨inner, _, ran⟩ := ran
    split at ran
    · refine leaving ?_ ran
      rfl
    · cases ran
      exact remaining_lt_of_done running rfl (Nat.le_refl _)
    · refine leaving ?_ ran
      rfl

theorem remaining_lt_of_stepGroup? {scope : Scope} {group : OpenGroup} {before after : Reader}
    (inMode : before.mode = .group group) (ran : before.stepGroup? scope group = some after) :
    after.remaining < before.remaining := by
  have running : before.mode ≠ .done := by simp [inMode]
  have shorterOf : ∀ {c cursor}, before.cursor.next = (some c, cursor) →
      cursor.rest.length < before.cursor.rest.length := by
    intro c cursor read
    simp [Cursor.rest_of_next read]
  unfold stepGroup? at ran
  split at ran
  rename_i next cursor read
  split at ran
  · cases ran
    obtain ⟨atEnd, stillAtEnd⟩ := Cursor.rest_of_next_none read
    exact remaining_lt_of_done running rfl (by simp [abort, record, atEnd, stillAtEnd])
  · cases ran
    have := shorterOf read
    exact remaining_lt_of_length_lt running (by simp; omega)
  · split at ran <;>
      · cases ran
        exact remaining_lt_of_length_lt running (shorterOf read)
  · split at ran
    · cases ran
      exact remaining_lt_of_length_lt running (shorterOf read)
    · split at ran
      · cases ran
      · exact remaining_lt_of_endGroup? running read ran
      · cases ran
        exact remaining_lt_of_length_lt running (shorterOf read)
  · split at ran <;>
      · cases ran
        exact remaining_lt_of_length_lt running (shorterOf read)

/-- A step of a reader that is not done leaves fewer steps. -/
theorem remaining_lt_of_step? {scope : Scope} {before after : Reader}
    (running : before.mode ≠ .done) (ran : before.step? scope = some after) :
    after.remaining < before.remaining := by
  unfold step? at ran
  split at ran
  · exact remaining_lt_of_stepBetween? (by assumption) ran
  · exact remaining_lt_of_stepTerm? (by assumption) ran
  · exact remaining_lt_of_stepGroup? (by assumption) ran
  · contradiction

end Reader

end SearchQuery
