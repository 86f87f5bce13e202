import SearchQuery.Proofs.Effect

/-! # The failure of a parse and its log

The failure is kept in two ways: of refused values the first one counts, and a failure that
ends the reading counts more than any of them. Both are done for each text by itself, while
the log goes through all texts of a query. `Ongoing` and `Failed` say how the two agree while
a text is read and after its reading has been ended, for the texts of groups as for the query.
-/

namespace SearchQuery

namespace Event

/-- The value that was refused, if the event is that one was. -/
def rejection? : Event → Option Rejection
  | .rejected rejection => some rejection
  | _ => none

/-- Whether the text of a group is about to be parsed. -/
def entersGroup : Event → Bool
  | .groupEntered _ _ => true
  | _ => false

/-- Whether the closing parenthesis of a group was read. -/
def leavesGroup : Event → Bool
  | .read .groupClose _ => true
  | _ => false

theorem Passing.rejection?_eq {event : Event} (passing : event.Passing) :
    event.rejection? = none := by
  cases passing <;> rfl

theorem filterMap_rejection?_of_passing {events : List Event}
    (passing : ∀ event ∈ events, event.Passing) : events.filterMap rejection? = [] := by
  rw [List.filterMap_eq_nil_iff]
  exact fun event member => (passing event member).rejection?_eq

theorem Passing.ne_aborted {event : Event} (passing : event.Passing) (failure : Failure) :
    event ≠ .aborted failure := by
  cases passing <;> simp

theorem Passing.entersGroup_eq {event : Event} (passing : event.Passing) :
    event.entersGroup = false := by
  cases passing <;> rfl

theorem Passing.leavesGroup_eq {event : Event} (passing : event.Passing) :
    event.leavesGroup = false := by
  cases passing with
  | @read kind span notClose => cases kind <;> first | rfl | exact absurd rfl notClose
  | groupOpened => rfl

end Event

namespace Parsed

/-- The values that were refused, in order. -/
def rejections (parsed : Parsed) : List Rejection := parsed.events.filterMap Event.rejection?

theorem rejections_eq_nil_iff {parsed : Parsed} :
    parsed.rejections = [] ↔ ∀ rejection, .rejected rejection ∉ parsed.events := by
  rw [rejections, List.filterMap_eq_nil_iff]
  constructor
  · intro noneRefused rejection member
    cases noneRefused _ member
  · intro noneRefused event member
    cases event with
    | rejected rejection => exact absurd member (noneRefused rejection)
    | read | groupOpened | groupEntered | aborted => rfl

@[simp] theorem events_recording (depth : Nat) (added : List Event) (parsed : Parsed) :
    (recording depth added parsed).events = parsed.events ++ added := by
  simp [events, recording, Function.comp_def]

@[simp] theorem events_entering (parsed : Parsed) (depth : Nat) (body : Text) (inner : Parsed) :
    (parsed.entering depth body inner).events =
      parsed.events ++ .groupEntered body (depth + 1) :: inner.events := by
  simp [events, entering]

@[simp] theorem events_adding (occur : Occur) (clause : Clause) (failure : Option Failure)
    (parsed : Parsed) : (adding occur clause failure parsed).events = parsed.events := rfl

@[simp] theorem events_aborting (depth : Nat) (fatal : Failure) (parsed : Parsed) :
    (aborting depth fatal parsed).events = parsed.events ++ [.aborted fatal] :=
  events_recording depth _ _

theorem rejections_recording (depth : Nat) (added : List Event) (parsed : Parsed) :
    (recording depth added parsed).rejections =
      parsed.rejections ++ added.filterMap Event.rejection? := by
  simp [rejections]

theorem rejections_entering (parsed : Parsed) (depth : Nat) (body : Text) (inner : Parsed) :
    (parsed.entering depth body inner).rejections = parsed.rejections ++ inner.rejections := by
  rw [rejections, events_entering, List.filterMap_append, List.filterMap_cons_none rfl]
  rfl

theorem rejections_adding (occur : Occur) (clause : Clause) (failure : Option Failure)
    (parsed : Parsed) : (adding occur clause failure parsed).rejections = parsed.rejections := rfl

/-- How failure and log agree as long as nothing has ended the reading. -/
structure Ongoing (parsed : Parsed) : Prop where
  not_aborted : ∀ failure, .aborted failure ∉ parsed.events
  balanced : parsed.events.countP Event.entersGroup = parsed.events.countP Event.leavesGroup
  failure_eq : parsed.failure = parsed.rejections.head?.map Failure.rejected

/-- How failure and log agree if the reading was ended in some group that lies in `unclosed`
others: each of the texts around is ended by the same failure. -/
structure Failed (parsed : Parsed) (fatal : Failure) (unclosed : Nat) : Prop where
  failure_eq : parsed.failure = some fatal
  isFatal : fatal.isFatal
  events_eq : ∃ before, (∀ failure, .aborted failure ∉ before) ∧
    parsed.events = before ++ List.replicate (unclosed + 1) (.aborted fatal)
  entered : parsed.events.countP Event.entersGroup =
    parsed.events.countP Event.leavesGroup + unclosed

/-- How failure and log agree at the end. -/
def Agrees (parsed : Parsed) : Prop :=
  parsed.Ongoing ∨ ∃ fatal unclosed, parsed.Failed fatal unclosed

variable {settings : Settings} {depth : Nat} {before after : Parsed}

theorem Ongoing.recording_passing (ongoing : before.Ongoing) {added : List Event}
    (passing : ∀ event ∈ added, event.Passing) : (before.recording depth added).Ongoing where
  not_aborted := by
    intro failure member
    rcases List.mem_append.1 (events_recording depth added before ▸ member) with old | new
    · exact ongoing.not_aborted failure old
    · exact (passing _ new).ne_aborted failure rfl
  balanced := by
    have noEntry : added.countP Event.entersGroup = 0 := by
      simpa [List.countP_eq_zero] using fun event member => (passing event member).entersGroup_eq
    have noExit : added.countP Event.leavesGroup = 0 := by
      simpa [List.countP_eq_zero] using fun event member => (passing event member).leavesGroup_eq
    simp [List.countP_append, noEntry, noExit, ongoing.balanced]
  failure_eq := by
    rw [rejections_recording, Event.filterMap_rejection?_of_passing passing, List.append_nil]
    exact ongoing.failure_eq

theorem ongoing_empty : Ongoing .empty where
  not_aborted := by
    intro failure member
    cases member
  balanced := rfl
  failure_eq := rfl

theorem Ongoing.adding_term (ongoing : before.Ongoing) {occur : Occur} {built : BuiltTerm}
    {kind : SpanKind} {span : Text} (notClose : kind ≠ .groupClose) :
    (((before.recording depth (built.rejections.map Event.rejected)).recording depth
      [.read kind span]).adding occur built.clause built.failure?).Ongoing where
  not_aborted := by
    simp [ongoing.not_aborted]
  balanced := by
    have noEntry : (built.rejections.map Event.rejected).countP Event.entersGroup = 0 := by
      simp [List.countP_eq_zero, Event.entersGroup]
    have noExit : (built.rejections.map Event.rejected).countP Event.leavesGroup = 0 := by
      simp [List.countP_eq_zero, Event.leavesGroup]
    have notLeft := (@Event.Passing.read kind span notClose).leavesGroup_eq
    simp [List.countP_append, noEntry, noExit, notLeft, ongoing.balanced, Event.entersGroup]
  failure_eq := by
    have refused : (built.rejections.map Event.rejected).filterMap Event.rejection? =
        built.rejections := by
      simp [List.filterMap_map, Function.comp_def, Event.rejection?]
    have noValue : Event.rejection? (.read kind span) = none := rfl
    have all : (before.rejections ++ built.rejections).head?.map Failure.rejected =
        (before.failure <|> built.failure?) := by
      simp [ongoing.failure_eq, BuiltTerm.failure?, List.head?_append, Option.map_or]
    simp only [rejections_adding, rejections_recording, refused, List.filterMap_cons, noValue,
      List.filterMap_nil, List.append_nil]
    exact all.symm

theorem Ongoing.adding_group (ongoing : before.Ongoing) {inner : Parsed} (innerOngoing : inner.Ongoing)
    {occur : Occur} {body : Text} :
    (((before.entering depth body inner).adding occur inner.clauses.toClause
      inner.failure).recording depth [.read .groupClose (body ++ [')'])]).Ongoing where
  not_aborted := by
    simp [ongoing.not_aborted, innerOngoing.not_aborted]
  balanced := by
    simp [List.countP_append, List.countP_cons, ongoing.balanced, innerOngoing.balanced,
      Event.entersGroup, Event.leavesGroup]
  failure_eq := by
    have all : (before.rejections ++ inner.rejections).head?.map Failure.rejected =
        (before.failure <|> inner.failure) := by
      simp [ongoing.failure_eq, innerOngoing.failure_eq, List.head?_append, Option.map_or]
    simp only [rejections_adding, rejections_recording, rejections_entering, List.filterMap_cons,
      Event.rejection?, List.filterMap_nil, List.append_nil]
    exact all.symm

theorem Ongoing.not_fatal (ongoing : before.Ongoing) {failure : Failure}
    (failed : before.failure = some failure) : ¬ failure.isFatal := by
  -- Only a refused value is reported while reading goes on.
  intro isFatal
  rw [ongoing.failure_eq, Option.map_eq_some_iff] at failed
  obtain ⟨rejection, -, rfl⟩ := failed
  cases isFatal

theorem ongoing_of_effect
    (inside : depth < settings.maxDepth → ∀ first body,
      (parseAt settings (depth + 1) first body).Agrees)
    (ongoing : before.Ongoing) (effect : Effect settings depth before after) : after.Ongoing := by
  cases effect with
  | pass passing => exact ongoing.recording_passing passing
  | term isBuilt notClose => exact ongoing.adding_term notClose
  | @group occur first body inner within isInner notFatal =>
      subst isInner
      rcases inside within first body with innerOngoing | ⟨fatal, unclosed, failed⟩
      · exact ongoing.adding_group innerOngoing
      · have contradiction := notFatal fatal failed.failure_eq
        rw [failed.isFatal] at contradiction
        cases contradiction

theorem Ongoing.aborting (ongoing : before.Ongoing) {fatal : Failure} (isFatal : fatal.isFatal) :
    (before.aborting depth fatal).Failed fatal 0 where
  failure_eq := rfl
  isFatal := isFatal
  events_eq := ⟨before.events, ongoing.not_aborted, by simp⟩
  entered := by
    simp [List.countP_append, ongoing.balanced, Event.entersGroup, Event.leavesGroup]

/-- A failure in a group is passed on to the text around. -/
theorem Ongoing.aborting_inside (ongoing : before.Ongoing) {inner : Parsed} {fatal : Failure}
    {unclosed : Nat} (failed : inner.Failed fatal unclosed) {body : Text} :
    ((before.entering depth body inner).aborting depth fatal).Failed fatal (unclosed + 1) where
  failure_eq := rfl
  isFatal := failed.isFatal
  events_eq := by
    obtain ⟨earlier, notAborted, isInner⟩ := failed.events_eq
    -- The entry of this text is the last, behind those of the texts inside.
    refine ⟨before.events ++ .groupEntered body (depth + 1) :: earlier, ?_, ?_⟩
    · simp [ongoing.not_aborted, notAborted]
    · simp [isInner, List.replicate_succ']
  entered := by
    have within := failed.entered
    simp [List.countP_append, List.countP_cons, ongoing.balanced, Event.entersGroup,
      Event.leavesGroup]
    omega

theorem agrees_of_abort
    (inside : depth < settings.maxDepth → ∀ first body,
      (parseAt settings (depth + 1) first body).Agrees)
    (ongoing : before.Ongoing) (abort : Abort settings depth before after) : after.Agrees := by
  right
  cases abort with
  | @here fatal isFatal => exact ⟨fatal, 0, ongoing.aborting isFatal⟩
  | @inside first body inner fatal within isInner failure isFatal =>
      subst isInner
      -- A fatal failure is that of a text whose reading was ended, so the group was ended too.
      rcases inside within first body with innerOngoing | ⟨other, unclosed, failed⟩
      · exact absurd isFatal (innerOngoing.not_fatal failure)
      · cases failure.symm.trans failed.failure_eq
        exact ⟨fatal, unclosed + 1, ongoing.aborting_inside failed⟩

end Parsed

theorem agrees_parseAt (settings : Settings) (depth base : Nat) (text : Text) :
    (parseAt settings depth base text).Agrees := by
  refine @parseAt_induction settings (fun _ _ _ parsed => parsed.Agrees) ?_ depth base text
  intro depth base text inside
  refine @parseAt_of_effects settings depth base text Parsed.Ongoing Parsed.Agrees ?_ ?_ ?_ ?_
  · exact Parsed.ongoing_empty
  · intro before after ongoing effect
    exact Parsed.ongoing_of_effect inside ongoing effect
  · intro parsed ongoing
    exact .inl ongoing
  · intro before after ongoing abort
    exact Parsed.agrees_of_abort inside ongoing abort

/-- The failure of a query is what its log says. Without an entry in the log that a value was
refused or the reading ended there is none. If the reading was never ended, it is the first
refused value of the whole query. If it was, the log ends with one entry of this failure for
every text that was being read, and there is no such entry before them. -/
theorem failure_agrees_with_log (settings : Settings) (query : Text) :
    let parsed := parse settings query
    (parsed.failure = none ↔ (∀ rejection, .rejected rejection ∉ parsed.events) ∧
      ∀ failure, .aborted failure ∉ parsed.events) ∧
    ((∀ failure, .aborted failure ∉ parsed.events) →
      parsed.failure = (parsed.events.filterMap Event.rejection?).head?.map Failure.rejected) ∧
    ((∃ failure, .aborted failure ∈ parsed.events) →
      ∃ fatal before unclosed, parsed.failure = some fatal ∧ fatal.isFatal ∧
        parsed.events = before ++ List.replicate (unclosed + 1) (.aborted fatal) ∧
        (∀ failure, .aborted failure ∉ before) ∧
        parsed.events.countP Event.entersGroup =
          parsed.events.countP Event.leavesGroup + unclosed) := by
  intro parsed
  have agrees : parsed.Agrees := agrees_parseAt settings 0 0 query
  rcases agrees with ongoing | ⟨fatal, unclosed, failed⟩
  · refine ⟨?_, fun _ => ongoing.failure_eq, ?_⟩
    · rw [ongoing.failure_eq, Option.map_eq_none_iff, List.head?_eq_none_iff,
        Parsed.rejections_eq_nil_iff]
      exact ⟨fun noneRefused => ⟨noneRefused, ongoing.not_aborted⟩, And.left⟩
    · rintro ⟨failure, member⟩
      exact absurd member (ongoing.not_aborted failure)
  · obtain ⟨before, notBefore, events⟩ := failed.events_eq
    have ended : .aborted fatal ∈ parsed.events := by
      simp [events, List.mem_replicate]
    refine ⟨?_, fun notEnded => absurd ended (notEnded fatal), fun _ =>
      ⟨fatal, before, unclosed, failed.failure_eq, failed.isFatal, events, notBefore,
        failed.entered⟩⟩
    rw [failed.failure_eq]
    exact ⟨fun absent => (nomatch absent), fun clean => absurd ended (clean.2 fatal)⟩

end SearchQuery
