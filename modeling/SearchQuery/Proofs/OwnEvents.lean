import SearchQuery.Proofs.Opening

/-! # What a text itself leaves in the log

The log of a text holds the logs of the groups in it, and is itself a part of the log of the query.
The depth of an entry tells which of them it belongs to: all that is recorded for a group lies
deeper than the text around it, so the entries of the depth of a text are its own.
-/

namespace SearchQuery

/-- The span that was read, and as what. -/
def Event.read? : Event → Option (SpanKind × Text)
  | .read kind span => some (kind, span)
  | .groupOpened _ _ | .groupEntered _ _ | .aborted _ | .rejected _ => none

namespace Parsed

/-- The events of a text in `depth` groups, without those of the groups in it. -/
def own (depth : Nat) (parsed : Parsed) : List Event :=
  (parsed.log.filter fun entry => entry.depth = depth).map Entry.event

/-- The spans that a text in `depth` groups was read in, without those of the groups in it. -/
def reads (depth : Nat) (parsed : Parsed) : List (SpanKind × Text) :=
  (parsed.own depth).filterMap Event.read?

/-- Whether all that is in the log was recorded for a text in at least `depth` groups. -/
def Within (depth : Nat) (parsed : Parsed) : Prop := ∀ entry ∈ parsed.log, depth ≤ entry.depth

variable {depth : Nat} {parsed inner : Parsed}

@[simp] theorem own_recording (events : List Event) :
    (parsed.recording depth events).own depth = parsed.own depth ++ events := by
  simp [own, recording, List.filter_map, Function.comp_def]

@[simp] theorem own_aborting (fatal : Failure) :
    (parsed.aborting depth fatal).own depth = parsed.own depth ++ [.aborted fatal] :=
  own_recording _

theorem Within.own_eq_nil (within : parsed.Within (depth + 1)) : parsed.own depth = [] := by
  rw [own, List.map_eq_nil_iff, List.filter_eq_nil_iff]
  intro entry member
  have deeper := within entry member
  simp only [decide_eq_true_eq]
  omega

theorem own_entering (body : Text) (deeper : inner.Within (depth + 1)) :
    (parsed.entering depth body inner).own depth =
      parsed.own depth ++ [.groupEntered body (depth + 1)] := by
  have nothing := deeper.own_eq_nil
  rw [own, List.map_eq_nil_iff] at nothing
  simp [own, entering, nothing]

theorem reads_recording (events : List Event) :
    (parsed.recording depth events).reads depth =
      parsed.reads depth ++ events.filterMap Event.read? := by
  rw [reads, own_recording, List.filterMap_append]
  rfl

theorem reads_entering (body : Text) (deeper : inner.Within (depth + 1)) :
    (parsed.entering depth body inner).reads depth = parsed.reads depth := by
  rw [reads, own_entering body deeper, List.filterMap_append]
  exact List.append_nil _

theorem Within.recording (within : parsed.Within depth) (events : List Event) :
    (parsed.recording depth events).Within depth := by
  intro entry member
  rcases List.mem_append.1 member with old | new
  · exact within entry old
  · obtain ⟨event, -, rfl⟩ := List.mem_map.1 new
    exact Nat.le_refl depth

theorem Within.entering (within : parsed.Within depth) (body : Text)
    (deeper : inner.Within (depth + 1)) : (parsed.entering depth body inner).Within depth := by
  intro entry member
  simp only [Parsed.entering, List.mem_append, List.mem_cons] at member
  rcases member with old | rfl | new
  · exact within entry old
  · exact Nat.le_refl depth
  · exact Nat.le_of_succ_le (deeper entry new)

end Parsed

section

variable {settings : Settings} {depth base : Nat} {text : Text} {before after : Parsed}

theorem within_parseAt (settings : Settings) (depth base : Nat) (text : Text) :
    (parseAt settings depth base text).Within depth := by
  refine @parseAt_induction settings (fun depth _ _ parsed => parsed.Within depth) ?_
    depth base text
  intro depth base text inside
  refine @parseAt_of_effects settings depth base text (Parsed.Within depth) (Parsed.Within depth)
    nofun ?_ (fun _ within => within) ?_
  · intro before after within effect
    cases effect with
    | pass => exact within.recording _
    | term => exact (within.recording _).recording _
    | @group occur first body inner allowed isInner =>
        have deeper : inner.Within (depth + 1) := isInner ▸ inside allowed first body
        exact (within.entering body deeper).recording _
  · intro before after within abort
    cases abort with
    | here => exact within.recording _
    | @inside first body inner fatal allowed isInner =>
        have deeper : inner.Within (depth + 1) := isInner ▸ inside allowed first body
        exact (within.entering body deeper).recording _

theorem within_of_enter {enter : Nat → Text → Option Parsed} {first : Nat} {body : Text}
    {inner : Parsed} (allowed : (settings.scope depth base).enter? = some enter)
    (entered : enter first body = some inner) : inner.Within (depth + 1) := by
  obtain ⟨-, rfl⟩ := eq_parseAt_of_enter allowed entered
  exact within_parseAt settings (depth + 1) first body

/-- The events of a text behind the opening of the group in which its reading is ended. -/
inductive Ending (depth : Nat) (fatal : Failure) : List Event → Prop where
  | here : Ending depth fatal [.aborted fatal]
  | inside {body : Text} : Ending depth fatal [.groupEntered body (depth + 1), .aborted fatal]

theorem Abort.own_eq (abort : Abort settings depth before after) :
    ∃ fatal ending, after.failure = some fatal ∧ after.own depth = before.own depth ++ ending ∧
      Ending depth fatal ending := by
  -- Whatever happens in a group, the end of the reading adds no more to a text's own events.
  cases abort with
  | @here fatal => exact ⟨fatal, _, rfl, Parsed.own_aborting fatal, .here⟩
  | @inside first body inner fatal allowed isInner =>
      have deeper : inner.Within (depth + 1) := isInner ▸ within_parseAt settings _ first body
      refine ⟨fatal, [.groupEntered body (depth + 1), .aborted fatal], rfl, ?_, .inside⟩
      rw [Parsed.own_aborting, Parsed.own_entering body deeper, List.append_assoc]
      rfl

/-! ## The log of a text in that of the query -/

theorem Effect.log_isPrefix (effect : Effect settings depth before after) :
    before.log <+: after.log := by
  cases effect with
  | pass => exact List.prefix_append _ _
  | term | group => exact (List.prefix_append _ _).trans (List.prefix_append _ _)

theorem Abort.log_isPrefix (abort : Abort settings depth before after) :
    before.log <+: after.log := by
  cases abort with
  | here => exact List.prefix_append _ _
  | inside => exact (List.prefix_append _ _).trans (List.prefix_append _ _)

theorem Reader.Move.log_isPrefix {before after : Reader}
    (move : Move (settings.scope depth base) before after) :
    before.parsed.log <+: after.parsed.log := by
  rcases move.effect with effect | ⟨-, abort⟩
  · exact effect.log_isPrefix
  · exact abort.log_isPrefix

theorem Reader.Reaches.log_isPrefix {reader : Reader}
    (reached : Reaches (settings.scope depth base) (ofText text) reader) :
    reader.parsed.log <+: (parseAt settings depth base text).log := by
  have run := reached.run?_eq
  rw [run?_scope] at run
  obtain ⟨last, further, -, same⟩ := exists_done_of_run? run.symm
  rw [← same]
  clear same
  induction further with
  | refl => exact List.prefix_refl _
  | step further running ran ih =>
      have move := move_of_step? isSome_enter_scope (reached.trans further).sound running ran
      exact ih.trans move.log_isPrefix

/-- The log of a group that is closed is a part of the log of the text around. -/
theorem Reader.Reaches.log_isInfix {reader : Reader} {first : Nat} {body : Text}
    (reached : Reaches (settings.scope depth base) (ofText text) reader)
    (allowed : depth < settings.maxDepth) (closing : reader.closing? base = some (first, body)) :
    (parseAt settings (depth + 1) first body).log <:+: (parseAt settings depth base text).log := by
  obtain ⟨group, mode, closes, atCursor, known, rfl⟩ := closing?_eq_some_iff.1 closing
  have entered : (settings.scope depth base).enter? =
      some fun base body => some (parseAt settings (depth + 1) base body) :=
    enter?_scope_of_lt allowed
  generalize isInner : parseAt settings (depth + 1) (base + reader.cursor.start) body = inner
  have inside : inner.log <:+: (reader.parsed.entering depth body inner).log :=
    ((List.suffix_cons _ _).trans (List.suffix_append _ _)).isInfix
  by_cases unbroken : inner.Unbroken
  · have move : Move (settings.scope depth base) reader _ :=
      .closeGroup mode atCursor closes entered known (congrArg some isInner) unbroken
    have left := (reached.trans (.move move)).log_isPrefix
    rw [parsed_leaving] at left
    exact (inside.trans (List.prefix_append _ _).isInfix).trans left.isInfix
  · obtain ⟨fatal, failed, isFatal⟩ : ∃ fatal, inner.failure = some fatal ∧ fatal.isFatal := by
      simpa [Parsed.Unbroken] using unbroken
    have move : Move (settings.scope depth base) reader _ :=
      .failInside mode atCursor closes entered known (congrArg some isInner) failed isFatal
    have left := (reached.trans (.move move)).log_isPrefix
    rw [parsed_abort, parsed_entering] at left
    exact (inside.trans (List.prefix_append _ _).isInfix).trans left.isInfix

end

/-- What is recorded for a text that a parse reads is a part of the log of the query. -/
theorem Invoked.log_isInfix {settings : Settings} {query text : Text} {depth base : Nat}
    (invoked : Invoked settings query depth base text) :
    (parseAt settings depth base text).log <:+: (parse settings query).log := by
  induction invoked with
  | outer => exact List.infix_refl _
  | inner _ allowed reached closing ih => exact (reached.log_isInfix allowed closing).trans ih

end SearchQuery
