import SearchQuery.Proofs.Invocation

/-! # What moves add to a parse

Of the moves of a reader few change what has been parsed so far. `Effect` lists the changes
after which reading goes on, `Abort` those that end it. A property of what is parsed is
proved with `parseAt_of_effects` from what it is at the beginning, what effects keep of it
and what an abort makes of it, without a look at the reader.
-/

namespace SearchQuery

/-- An event that only tells how far the text has been read. -/
inductive Event.Passing : Event → Prop where
  | read {kind : SpanKind} {span : Text} : kind ≠ .groupClose → Passing (.read kind span)
  | groupOpened {offset depth : Nat} : Passing (.groupOpened offset depth)

namespace Parsed

/-- What has been parsed at the beginning of a text. -/
def empty : Parsed := { clauses := {}, failure := none, log := [] }

/-- Puts events behind those that have been recorded. -/
def recording (depth : Nat) (events : List Event) (parsed : Parsed) : Parsed :=
  { parsed with log := parsed.log ++ events.map (Entry.mk depth) }

/-- Puts the record of the text of a group behind the events that have been recorded. -/
def entering (parsed : Parsed) (depth : Nat) (body : Text) (inner : Parsed) : Parsed :=
  { parsed with
    log := parsed.log ++ ⟨depth, .groupEntered body (depth + 1)⟩ :: inner.log }

/-- Puts a clause to the others, with a failure that counts if it is the first. -/
def adding (occur : Occur) (clause : Clause) (failure : Option Failure) (parsed : Parsed) :
    Parsed :=
  { parsed with
    clauses := parsed.clauses.add occur clause
    failure := parsed.failure <|> failure }

/-- Ends with a failure that counts more than any before. -/
def aborting (depth : Nat) (fatal : Failure) (parsed : Parsed) : Parsed :=
  recording depth [.aborted fatal] { parsed with failure := some fatal }

theorem recording_recording (depth : Nat) (first second : List Event) (parsed : Parsed) :
    (parsed.recording depth first).recording depth second =
      parsed.recording depth (first ++ second) := by
  simp [recording]

end Parsed

/-- A change of what has been parsed after which reading goes on. -/
inductive Effect (settings : Settings) (depth : Nat) (before : Parsed) : Parsed → Prop where
  | pass {events : List Event} : (∀ event ∈ events, event.Passing) →
      Effect settings depth before (before.recording depth events)
  | term {occur : Occur} {field : Option Text} {kind : MatchKind} {spanKind : SpanKind}
      {span : Text} {built : BuiltTerm} :
      built = settings.buildTerm field kind (Text.trim span) → spanKind ≠ .groupClose →
      Effect settings depth before
        (((before.recording depth (built.rejections.map Event.rejected)).recording depth
          [.read spanKind span]).adding occur built.clause built.failure?)
  | group {occur : Occur} {first : Nat} {body : Text} {inner : Parsed} :
      depth < settings.maxDepth → inner = parseAt settings (depth + 1) first body →
      (∀ failure, inner.failure = some failure → failure.isFatal = false) →
      Effect settings depth before
        (((before.entering depth body inner).adding occur inner.clauses.toClause
          inner.failure).recording depth [.read .groupClose (body ++ [')'])])

/-- A change of what has been parsed that ends the reading. -/
inductive Abort (settings : Settings) (depth : Nat) (before : Parsed) : Parsed → Prop where
  | here {fatal : Failure} : fatal.isFatal → Abort settings depth before (before.aborting depth fatal)
  | inside {first : Nat} {body : Text} {inner : Parsed} {fatal : Failure} :
      depth < settings.maxDepth → inner = parseAt settings (depth + 1) first body →
      inner.failure = some fatal → fatal.isFatal →
      Abort settings depth before ((before.entering depth body inner).aborting depth fatal)

namespace Reader

@[simp] theorem parsed_ahead (reader : Reader) : reader.ahead.parsed = reader.parsed := rfl

@[simp] theorem parsed_still (reader : Reader) : reader.still.parsed = reader.parsed := rfl

theorem parsed_record (scope : Scope) (events : List Event) (reader : Reader) :
    (reader.record scope events).parsed = reader.parsed.recording scope.depth events := by
  simp [record, parsed, Parsed.recording]

theorem parsed_committing (scope : Scope) (kind : SpanKind) (span : Text) (reader : Reader) :
    (reader.committing scope kind span).parsed =
      reader.parsed.recording scope.depth [.read kind span] := parsed_record scope _ _

theorem parsed_opening (scope : Scope) (span : Text) (offset : Nat) (mode : Mode) (reader : Reader) :
    (record scope [.groupOpened offset (scope.depth + 1)]
        { committing scope .groupOpen span reader.ahead with mode }).parsed =
      reader.parsed.recording scope.depth
        [.read .groupOpen span, .groupOpened offset (scope.depth + 1)] := by
  simp [committing, record, parsed, Parsed.recording, ahead]

theorem parsed_endingTerm (scope : Scope) (span : Text) (reader : Reader) {built : BuiltTerm}
    (isBuilt : built = scope.settings.buildTerm reader.field reader.kind (Text.trim span)) :
    (reader.endingTerm scope span).parsed =
      ((reader.parsed.recording scope.depth (built.rejections.map Event.rejected)).recording
        scope.depth [.read (if reader.field.isSome then .fieldValue else .term) span]).adding
          reader.occur built.clause built.failure? := by
  subst isBuilt
  simp [endingTerm, committing, record, report, attach, parsed, Parsed.recording, Parsed.adding]

theorem parsed_entering (scope : Scope) (body : Text) (inner : Parsed) (reader : Reader) :
    (reader.entering scope body inner).parsed = reader.parsed.entering scope.depth body inner := by
  simp [entering, record, parsed, Parsed.entering]

theorem parsed_leaving (scope : Scope) (occur : Occur) (body : Text) (inner : Parsed)
    (reader : Reader) :
    (reader.leaving scope occur body inner).parsed =
      ((reader.parsed.entering scope.depth body inner).adding occur inner.clauses.toClause
        inner.failure).recording scope.depth [.read .groupClose (body ++ [')'])] := by
  rw [← parsed_entering, leaving, parsed_committing]
  rfl

theorem parsed_abort (scope : Scope) (fatal : Failure) (reader : Reader) :
    (reader.abort scope fatal).parsed = reader.parsed.aborting scope.depth fatal :=
  parsed_record scope _ _

theorem parsed_sigilled (scope : Scope) (reader : Reader) :
    ∃ events, (reader.sigilled scope).parsed = reader.parsed.recording scope.depth events ∧
      ∀ event ∈ events, ∃ sigil span, event = .read (.sigil sigil) span := by
  simp only [sigilled]
  split
  · exact ⟨[], by simp [still, parsed, Parsed.recording], by simp⟩
  · exact ⟨_, parsed_committing scope _ _ _, by simp⟩
  · exact ⟨_, parsed_committing scope _ _ _, by simp⟩

section

variable {before named : Reader} {c : Char}
  (spot : named = if c = ':' then before.ahead else before.still)

include spot

theorem parsed_of_spot : named.parsed = before.parsed := by
  rw [spot]
  split <;> rfl

theorem occur_of_spot : named.occur = before.occur := by
  rw [spot]
  split <;> rfl

theorem parsed_sigilled_of_name (scope : Scope) (name span : Text) :
    ∃ events, ((committing scope .field span { named with field := some name }).sigilled
        scope).parsed = before.parsed.recording scope.depth (.read .field span :: events) ∧
      ∀ event ∈ events, ∃ sigil span, event = .read (.sigil sigil) span := by
  obtain ⟨events, sigil, reads⟩ := parsed_sigilled scope
    (committing scope .field span { named with field := some name })
  refine ⟨events, ?_, reads⟩
  have same : named.parsed = before.parsed := parsed_of_spot spot
  have isNamed : { named with field := some name }.parsed = before.parsed := same
  rw [sigil, parsed_committing, isNamed]
  simp [Parsed.recording]

end

section

variable {settings : Settings} {depth base : Nat} {before after : Reader}

theorem effect_of_parsed_eq (same : after.parsed = before.parsed) :
    Effect settings depth before.parsed after.parsed := by
  have step : Effect settings depth before.parsed (before.parsed.recording depth []) :=
    .pass (by simp)
  have nothing : before.parsed.recording depth [] = before.parsed := by
    simp [Parsed.recording]
  rw [nothing] at step
  rw [same]
  exact step

theorem effect_of_recording {events : List Event} (passing : ∀ event ∈ events, event.Passing)
    (recorded : after.parsed = before.parsed.recording depth events) :
    Effect settings depth before.parsed after.parsed := by
  rw [recorded]
  exact .pass passing

/-- What a move does to what has been parsed. -/
theorem Move.effect (move : Move (settings.scope depth base) before after) :
    Effect settings depth before.parsed after.parsed ∨
      after.mode = .done ∧ Abort settings depth before.parsed after.parsed := by
  cases move with
  | finish | escape | beginTerm | content | inside => exact .inl (effect_of_parsed_eq rfl)
  | @mark c kind occur span mode atCursor mark known =>
      left
      have passing : ∀ event ∈ [Event.read kind span], event.Passing := by
        intro event member
        rw [List.mem_singleton] at member
        subst member
        cases mark <;> exact .read (by simp)
      exact effect_of_recording passing (parsed_committing _ kind span _)
  | @openGroup span offset mode atCursor known isOffset =>
      left
      have passing : ∀ event ∈ [Event.read .groupOpen span, .groupOpened offset (depth + 1)],
          event.Passing := by
        intro event member
        simp only [List.mem_cons, List.not_mem_nil, or_false] at member
        rcases member with rfl | rfl
        · exact .read (by simp)
        · exact .groupOpened
      exact effect_of_recording passing (parsed_opening _ span offset _ before)
  | @name c name span named mode atCursor delimiter outside noField value nonempty spot known =>
      left
      obtain ⟨events, recorded, reads⟩ :=
        parsed_sigilled_of_name spot (settings.scope depth base) name span
      refine effect_of_recording ?_ recorded
      intro event member
      rcases List.mem_cons.1 member with rfl | member
      · exact .read (by simp)
      · obtain ⟨sigil, span, rfl⟩ := reads event member
        exact .read (by simp)
  | @endTerm span mode atEnd known =>
      left
      rw [parsed_endingTerm _ _ _ rfl]
      refine .term rfl ?_
      split <;> simp
  | unclosed mode atEnd =>
      right
      rw [parsed_abort]
      exact ⟨rfl, .here rfl⟩
  | tooDeep mode atCursor closes atLimit behind =>
      right
      rw [parsed_abort]
      exact ⟨rfl, .here rfl⟩
  | failInside mode atCursor closes allowed known entered failed fatal =>
      right
      obtain ⟨within, isInner⟩ := eq_parseAt_of_enter allowed entered
      rw [parsed_abort, parsed_entering]
      exact ⟨rfl, .inside within isInner failed fatal⟩
  | closeGroup mode atCursor closes allowed known entered notFatal =>
      left
      obtain ⟨within, isInner⟩ := eq_parseAt_of_enter allowed entered
      rw [parsed_leaving]
      exact .group within isInner notFatal

end

end Reader

/-- Of what is parsed from a text holds what effects keep and what an abort leads to. -/
theorem parseAt_of_effects {settings : Settings} {depth base : Nat} {text : Text}
    {Ongoing Final : Parsed → Prop} (begins : Ongoing .empty)
    (kept : ∀ before after, Ongoing before → Effect settings depth before after → Ongoing after)
    (ends : ∀ parsed, Ongoing parsed → Final parsed)
    (aborts : ∀ before after, Ongoing before → Abort settings depth before after → Final after) :
    Final (parseAt settings depth base text) := by
  obtain ⟨last, inv, -, same⟩ := @exists_done_of_moves settings depth base text
    (fun reader => Ongoing reader.parsed ∨ reader.mode = .done ∧ Final reader.parsed)
    (.inl begins) (by
      intro before after _ inv move
      rcases inv with ongoing | ⟨done, -⟩
      · rcases move.effect with effect | ⟨finished, abort⟩
        · exact .inl (kept _ _ ongoing effect)
        · exact .inr ⟨finished, aborts _ _ ongoing abort⟩
      · exact absurd done move.not_done)
  rw [← same]
  rcases inv with ongoing | ⟨-, final⟩
  · exact ends _ ongoing
  · exact final

end SearchQuery
