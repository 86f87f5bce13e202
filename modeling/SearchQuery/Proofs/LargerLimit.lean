import SearchQuery.Proofs.GroupEvents

/-! # Parsing with a larger limit

The limit is looked at only where a group closes that lies too deep, and then the parse ends with
it. Up to there a reader moves as it does with any larger limit, so a parse that did not meet the
limit comes to the same with a larger one.
-/

namespace SearchQuery

/-- Whether the parse was not ended by the limit. -/
def Parsed.WithinLimit (parsed : Parsed) : Prop :=
  ∀ limit, parsed.failure ≠ some (.nestedTooDeep limit)

variable {settings : Settings} {larger depth base : Nat} {text : Text}

theorem Parsed.Unbroken.withinLimit {parsed : Parsed} (unbroken : parsed.Unbroken) :
    parsed.WithinLimit := by
  intro limit failed
  have := unbroken _ failed
  cases this

theorem enter?_limitedTo (le : settings.maxDepth ≤ larger) (allowed : depth < settings.maxDepth) :
    ((settings.limitedTo larger).scope depth base).enter? =
      some fun first body => some (parseAt (settings.limitedTo larger) (depth + 1) first body) :=
  enter?_scope_of_lt (Nat.lt_of_lt_of_le allowed le)

namespace Reader

/-- Whether the groups in a text that keep the limit are parsed alike with the larger one. -/
def GroupsAlike (settings : Settings) (larger depth : Nat) : Prop :=
  depth < settings.maxDepth → ∀ first body,
    (parseAt settings (depth + 1) first body).WithinLimit →
      parseAt (settings.limitedTo larger) (depth + 1) first body =
        parseAt settings (depth + 1) first body

theorem Move.limitedTo {before after : Reader} (le : settings.maxDepth ≤ larger)
    (alike : GroupsAlike settings larger depth) (within : after.parsed.WithinLimit)
    (move : Move (settings.scope depth base) before after) :
    Move ((settings.limitedTo larger).scope depth base) before after := by
  -- Only the moves that close a group look at the limit.
  cases move with
  | finish mode atEnd => exact .finish mode atEnd
  | escape running atCursor => exact .escape running atCursor
  | mark mode atCursor mark known => exact .mark mode atCursor mark known
  | openGroup mode atCursor known isOffset => exact .openGroup mode atCursor known isOffset
  | beginTerm mode atCursor other => exact .beginTerm mode atCursor other
  | content mode atCursor notEscape spaceInside delimiterInside =>
      exact .content mode atCursor notEscape spaceInside delimiterInside
  | name mode atCursor delimiter outside noField value nonempty spot known =>
      exact .name mode atCursor delimiter outside noField value nonempty spot known
  | endTerm mode atEnd known => exact .endTerm mode atEnd known
  | unclosed mode atEnd => exact .unclosed mode atEnd
  | inside mode atCursor notEscape positive notClosing =>
      exact .inside mode atCursor notEscape positive notClosing
  | tooDeep => exact absurd rfl (within _)
  | failInside mode atCursor closes allowed known entered failed isFatal =>
      obtain ⟨allowed, isInner⟩ := eq_parseAt_of_enter allowed entered
      subst isInner
      have same := alike allowed _ _ (by rw [Parsed.WithinLimit, failed]; exact within)
      exact .failInside mode atCursor closes (enter?_limitedTo le allowed) known
        (congrArg some same) failed isFatal
  | closeGroup mode atCursor closes allowed known entered notFatal =>
      obtain ⟨allowed, isInner⟩ := eq_parseAt_of_enter allowed entered
      subst isInner
      have same := alike allowed _ _ (Parsed.Unbroken.withinLimit notFatal)
      exact .closeGroup mode atCursor closes (enter?_limitedTo le allowed) known
        (congrArg some same) notFatal

theorem Reaches.limitedTo {reader : Reader} (le : settings.maxDepth ≤ larger)
    (alike : GroupsAlike settings larger depth) (within : reader.parsed.WithinLimit)
    (reached : Reaches (settings.scope depth base) (ofText text) reader) :
    Reaches ((settings.limitedTo larger).scope depth base) (ofText text) reader := by
  induction reached with
  | refl => exact .refl
  | step reached running ran ih =>
      have move := move_of_step? isSome_enter_scope reached.sound running ran
      have stillReached := ih (reached.unbroken running).withinLimit
      exact stillReached.trans (.move (move.limitedTo le alike within))

end Reader

/-- A text whose parse keeps the limit is parsed alike with a larger one. -/
theorem parseAt_limitedTo (le : settings.maxDepth ≤ larger) (depth base : Nat) (text : Text)
    (within : (parseAt settings depth base text).WithinLimit) :
    parseAt (settings.limitedTo larger) depth base text = parseAt settings depth base text := by
  refine @parseAt_induction settings
    (fun depth base text parsed => parsed.WithinLimit →
      parseAt (settings.limitedTo larger) depth base text = parsed) ?_ depth base text within
  intro depth base text alike within
  obtain ⟨last, reached, done, same⟩ := exists_done_parseAt settings depth base text
  rw [← same] at within ⊢
  exact ((reached.limitedTo le alike within).parsed_of_done done).symm

/-- The limit only cuts. A parse that does not report the limit is the same with a larger one, and
so what reports a larger limit reports the smaller one. -/
theorem larger_limit_only_extends (settings : Settings) (larger : Nat)
    (le : settings.maxDepth ≤ larger) (query : Text) :
    let parsed := parse settings query
    let extended := parse { settings with maxDepth := larger } query
    ((∀ limit, parsed.failure ≠ some (.nestedTooDeep limit)) → extended = parsed) ∧
    ∀ limit, extended.failure = some (.nestedTooDeep limit) →
      parsed.failure = some (.nestedTooDeep settings.maxDepth) := by
  intro parsed extended
  have same : parsed.WithinLimit → extended = parsed := parseAt_limitedTo le 0 0 query
  refine ⟨same, ?_⟩
  intro limit failed
  by_cases within : parsed.WithinLimit
  · rw [same within] at failed
    exact absurd failed (within limit)
  · obtain ⟨reported, failed⟩ : ∃ limit, parsed.failure = some (.nestedTooDeep limit) :=
      Classical.not_forall_not.1 within
    rw [failed, limit_of_nestedTooDeep failed]

/-- Of `(((a)))` the limits one and two are both reported. Of `((` neither is. -/
theorem larger_limit_only_extends_by_one :
    let deep : Text := ['(', '(', '(', 'a', ')', ')', ')']
    let unclosed : Text := ['(', '(']
    (parse { maxDepth := 2 } deep).failure = some (.nestedTooDeep 2) ∧
    (parse { maxDepth := 1 } deep).failure = some (.nestedTooDeep 1) ∧
    (parse { maxDepth := 1 } unclosed).failure = some (.unclosedGroup 0) ∧
    parse { maxDepth := 2 } unclosed = parse { maxDepth := 1 } unclosed := by
  intro deep unclosed
  have tooDeep : (parse { maxDepth := 2 } deep).failure = some (.nestedTooDeep 2) := by
    decide +kernel
  have failed : (parse { maxDepth := 1 } unclosed).failure = some (.unclosedGroup 0) := by
    decide +kernel
  refine ⟨tooDeep, ?_, failed, ?_⟩
  · exact (larger_limit_only_extends { maxDepth := 1 } 2 (by decide) deep).2 2 tooDeep
  · refine (larger_limit_only_extends { maxDepth := 1 } 2 (by decide) unclosed).1 ?_
    simp [failed]

end SearchQuery
