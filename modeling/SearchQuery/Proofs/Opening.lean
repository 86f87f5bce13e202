import SearchQuery.Proofs.GroupEvents

/-! # The group that a parse is ended by

A failure that ends the reading of a text is met in a group of the text. Up to the parenthesis of
that group the text was read as any other, and of what is behind it nothing is left but in the log:
`exists_opening` tells what has been parsed by the reader in front of the parenthesis.
-/

namespace SearchQuery

namespace Parsed

/-- What has been parsed behind the parenthesis of a group. -/
def opening (depth offset : Nat) (span : Text) (parsed : Parsed) : Parsed :=
  parsed.recording depth [.read .groupOpen span, .groupOpened offset (depth + 1)]

end Parsed

namespace Reader

variable {settings : Settings} {depth base : Nat} {text : Text} {reader before after : Reader}

/-- The reader stands in front of a parenthesis of its text that opens a group. -/
structure Opening (settings : Settings) (depth base : Nat) (text front behind span : Text)
    (reader : Reader) : Prop where
  reached : Reaches (settings.scope depth base) (ofText text) reader
  mode : reader.mode = .between
  text_eq : text = front ++ '(' :: behind
  rest : reader.cursor.rest = '(' :: behind
  known : reader.ahead.cursor.spanText? = some span

/-- A reader is in a group with what was parsed in front of it. -/
theorem Reaches.exists_opening (reached : Reaches (settings.scope depth base) (ofText text) reader)
    {group : OpenGroup} (mode : reader.mode = .group group) :
    ∃ (opening : Reader) (front behind span : Text),
      opening.Opening settings depth base text front behind span ∧
      group.offset = base + Text.byteSize front ∧
      reader.parsed = opening.parsed.opening depth group.offset span := by
  induction reached generalizing group with
  | refl => cases mode
  | @step before after reached running ran ih =>
      have sound := reached.sound
      have move := move_of_step? isSome_enter_scope sound running ran
      cases move with
      | finish | beginTerm | endTerm | unclosed | tooDeep | failInside | closeGroup => cases mode
      | mark isBetween => cases isBetween.symm.trans mode
      | content isTerm => cases isTerm.symm.trans mode
      | name isTerm _ _ _ _ _ _ spot =>
          cases isTerm.symm.trans ((mode_name spot).symm.trans mode)
      | escape => exact ih mode
      | @inside other c isGroup =>
          cases mode
          rw [OpenGroup.offset_after]
          exact ih isGroup
      | @openGroup span offset isBetween atCursor known isOffset =>
          cases mode
          obtain ⟨front, scanning⟩ := exists_scanning sound.behind atCursor isOffset
          obtain ⟨behind, isRest⟩ := List.head?_eq_some_iff.1 atCursor
          have opened := scanning { before with cursor := before.ahead.cursor.commit } rfl
          have whole : before.ahead.cursor.commit.text = text :=
            Cursor.text_of_lawful (.commit (.next reached.lawful))
          have isBehind : before.ahead.cursor.commit.rest = behind :=
            Cursor.rest_next_of_cons isRest
          have text_eq : text = front ++ '(' :: behind := by
            rw [← whole, opened.text_eq, isBehind, List.nil_append]
          exact ⟨before, front, behind, span, ⟨reached, isBetween, text_eq, isRest, known⟩,
            opened.offset, parsed_opening _ span offset _ before⟩

end Reader

section

variable {settings : Settings} {depth base : Nat} {text : Text} {fatal : Failure}

theorem History.lt_level {events : List Event} {fatal : Option Failure}
    (history : History settings depth base text events fatal) {offset level : Nat}
    (opened : .groupOpened offset level ∈ events) : depth < level := by
  induction history with
  | begun => cases opened
  | plain _ plain ih =>
      rcases List.mem_append.1 opened with old | new
      · exact ih old
      · exact absurd rfl ((plain _ new).ne_groupOpened offset level)
  | group _ _ _ _ _ ih ihInner | inside _ _ _ _ _ ih ihInner =>
      simp only [List.mem_append, List.mem_cons, List.not_mem_nil, Event.groupOpened.injEq,
        reduceCtorEq, or_false] at opened
      rcases opened with (old | ⟨-, rfl⟩) | new
      · exact ih old
      · exact Nat.lt_succ_self _
      · exact Nat.lt_of_succ_lt (ihInner new)
  | unclosed _ _ _ ih | tooDeep _ _ _ _ ih =>
      simp only [List.mem_append, List.mem_cons, List.not_mem_nil, Event.groupOpened.injEq,
        reduceCtorEq, or_false] at opened
      rcases opened with old | ⟨-, rfl⟩
      · exact ih old
      · exact Nat.lt_succ_self _

theorem Abort.clauses_eq {before after : Parsed} (abort : Abort settings depth before after) :
    after.clauses = before.clauses := by
  cases abort <;> rfl

theorem Abort.exists_events {before after : Parsed} (abort : Abort settings depth before after) :
    ∃ later, after.events = before.events ++ later ∧
      ∀ other, .groupOpened other (depth + 1) ∉ later := by
  -- No group of the text itself is opened while its reading is ended.
  cases abort with
  | @here fatal isFatal => exact ⟨[.aborted fatal], Parsed.events_aborting _ _ _, by simp⟩
  | @inside first body inner fatal within isInner failed isFatal =>
      have deeper : ∀ other, .groupOpened other (depth + 1) ∉ inner.events := by
        intro other opened
        rw [isInner] at opened
        exact Nat.lt_irrefl _ ((history_parseAt settings _ first body).lt_level opened)
      refine ⟨.groupEntered body (depth + 1) :: inner.events ++ [.aborted fatal], ?_, ?_⟩
      · simp
      · simp [deeper]

/-- A failure that ends the reading is met in a group, behind the parenthesis of which nothing of
the text is kept. -/
theorem exists_opening_of_fatal (failed : (parseAt settings depth base text).fatal? = some fatal) :
    ∃ (opening : Reader) (front behind span : Text),
      opening.Opening settings depth base text front behind span ∧
      Abort settings depth
        (opening.parsed.opening depth (base + Text.byteSize front) span)
        (parseAt settings depth base text) := by
  obtain ⟨last, group, reached, mode, abort⟩ := exists_end_of_fatal failed
  obtain ⟨opening, front, behind, span, isOpening, isOffset, parsed⟩ := reached.exists_opening mode
  rw [parsed, isOffset] at abort
  exact ⟨opening, front, behind, span, isOpening, abort⟩

end

end SearchQuery
