import SearchQuery.Proofs.Parallel

/-! # What checks can change

Checks give other values and refuse some, and nothing else of a parse depends on them. A view of
the clauses under which the terms of two settings are equal makes all that is parsed with them
equal, but for refused values: `parseAt_seen` is used once with the values erased, and once with
nothing erased for checks that differ only in what they refuse.
-/

namespace SearchQuery

namespace Clause

mutual

/-- The clause without the values that its leaves look for. -/
def erased : Clause → Clause
  | .text field _ phrase => .text field [] phrase
  | .keyword field _ => .keyword field []
  | .range field _ side => .range field [] side
  | .regex field _ => .regex field []
  | .freeText _ fields => .freeText [] fields
  | .nested path inner => .nested path (erased inner)
  | .bool must mustNot should => .bool (allErased must) (allErased mustNot) (allErased should)

/-- The clauses without the values that their leaves look for. -/
def allErased : List Clause → List Clause
  | [] => []
  | clause :: clauses => erased clause :: allErased clauses

end

theorem allErased_eq (clauses : List Clause) : allErased clauses = clauses.map erased := by
  induction clauses with
  | nil => rfl
  | cons clause clauses ih => rw [allErased, ih, List.map_cons]

end Clause

namespace Clauses

def map (view : Clause → Clause) (clauses : Clauses) : Clauses where
  must := clauses.must.map view
  mustNot := clauses.mustNot.map view
  should := clauses.should.map view

theorem map_add (view : Clause → Clause) (clauses : Clauses) (occur : Occur) (clause : Clause) :
    (clauses.add occur clause).map view = (clauses.map view).add occur (view clause) := by
  cases occur <;> simp [map, add]

theorem map_id (clauses : Clauses) : clauses.map id = clauses := by
  simp only [map, List.map_id]

theorem erased_toClause (clauses : Clauses) :
    clauses.toClause.erased = (clauses.map Clause.erased).toClause := by
  simp only [toClause, Clause.erased, Clause.allErased_eq, map]

end Clauses

/-- The check that gives a value back where the other refuses it. -/
def ValueCheck.lenient (check : ValueCheck) : ValueCheck := fun value =>
  match check value with
  | .ok accepted => .ok accepted
  | .error _ => .ok value

/-! ## Terms -/

theorem MatchKind.erased_leaf (kind : MatchKind) (field value : Text) (quoted : Bool) :
    (kind.leaf field value quoted).erased = kind.leaf field [] quoted := by
  cases kind with
  | auto | phrase => rfl
  | sigil sigil => cases sigil <;> rfl

namespace Settings

variable (settings : Settings) (checks : Table ValueCheck)

theorem erased_nest (field : Text) (clause : Clause) :
    (settings.nest field clause).erased = settings.nest field clause.erased := by
  rw [nest, nest]
  generalize Field.sortByLength _ = paths
  induction paths generalizing clause with
  | nil => rfl
  | cons path paths ih => exact ih (.nested path clause)

theorem erased_buildTerm (field : Option Text) (kind : MatchKind) (raw : Text) :
    ({ settings with checks }.buildTerm field kind raw).clause.erased =
      (settings.buildTerm field kind raw).clause.erased := by
  cases field with
  | none =>
      simp only [buildTerm, buildDefault, Clauses.erased_toClause, Clauses.map, List.map_nil,
        List.map_map]
      congr 2
      refine List.map_congr_left ?_
      intro name _
      simp only [Function.comp_apply, erased_nest]
      rfl
  | some field =>
      simp only [buildTerm, buildFielded, erased_nest, MatchKind.erased_leaf]
      rfl

variable {settings checks}

theorem checkValue_lenient
    (lenient : ∀ field, checks.find? field = (settings.checks.find? field).map ValueCheck.lenient)
    (field value : Text) :
    ({ settings with checks }.checkValue field value).1 = (settings.checkValue field value).1 := by
  simp only [checkValue, lenient]
  cases settings.checks.find? field with
  | none => rfl
  | some check =>
      simp only [Option.map_some, ValueCheck.lenient]
      cases check value <;> rfl

theorem clause_buildTerm_lenient
    (lenient : ∀ field, checks.find? field = (settings.checks.find? field).map ValueCheck.lenient)
    (field : Option Text) (kind : MatchKind) (raw : Text) :
    ({ settings with checks }.buildTerm field kind raw).clause =
      (settings.buildTerm field kind raw).clause := by
  -- A refused value stays in its clause, so a term is the same if it is not refused.
  cases field with
  | none =>
      simp only [buildTerm, buildDefault, List.map_map, Function.comp_def,
        checkValue_lenient lenient]
      rfl
  | some field =>
      have stored : { settings with checks }.storedField field = settings.storedField field := rfl
      simp only [buildTerm, buildFielded, stored, checkValue_lenient lenient]
      rfl

end Settings

/-! ## Whole parses -/

namespace Parsed

/-- What is parsed, in some view of its clauses and without what was refused. -/
def seen (view : Clause → Clause) (parsed : Parsed) : Parsed where
  clauses := parsed.clauses.map view
  failure := parsed.fatal?
  log := parsed.log.filter fun entry => entry.event.rejection?.isNone

variable (view : Clause → Clause) {parsed : Parsed} {depth : Nat}

theorem seen_recording {events : List Event}
    (accepted : ∀ event ∈ events, event.rejection? = none) :
    (parsed.recording depth events).seen view = (parsed.seen view).recording depth events := by
  have kept : (events.map (Entry.mk depth)).filter (fun entry => entry.event.rejection?.isNone) =
      events.map (Entry.mk depth) := by
    simpa [List.filter_eq_self] using accepted
  simp only [seen, recording, List.filter_append, kept]
  rfl

theorem seen_recording_rejected (rejections : List Rejection) :
    (parsed.recording depth (rejections.map Event.rejected)).seen view = parsed.seen view := by
  have removed : ((rejections.map Event.rejected).map (Entry.mk depth)).filter
      (fun entry => entry.event.rejection?.isNone) = [] := by
    simp [List.filter_eq_nil_iff, Event.rejection?]
  simp only [seen, recording, List.filter_append, removed, List.append_nil]
  rfl

theorem seen_entering (body : Text) (inner : Parsed) :
    (parsed.entering depth body inner).seen view =
      (parsed.seen view).entering depth body (inner.seen view) := by
  simp [seen, entering, fatal?, Event.rejection?]

theorem seen_adding (unbroken : parsed.Unbroken) {failure : Option Failure}
    (notFatal : ∀ fatal, failure = some fatal → fatal.isFatal = false) (occur : Occur)
    (clause : Clause) :
    (parsed.adding occur clause failure).seen view =
      (parsed.seen view).adding occur (view clause) none := by
  have stillUnbroken : (parsed.adding occur clause failure).Unbroken :=
    not_fatal_orElse unbroken notFatal
  rw [seen, stillUnbroken.fatal?_eq, seen, unbroken.fatal?_eq]
  simp only [adding, Clauses.map_add]
  rfl

theorem seen_aborting {fatal : Failure} (isFatal : fatal.isFatal) :
    (parsed.aborting depth fatal).seen view = (parsed.seen view).aborting depth fatal := by
  have ended : ({ parsed with failure := some fatal } : Parsed).fatal? = some fatal :=
    fatal?_of_isFatal rfl isFatal
  rw [aborting, seen_recording view (by simp [Event.rejection?]), seen, ended]
  rfl

theorem seen_term (unbroken : parsed.Unbroken) (occur : Occur) (built : BuiltTerm)
    (kind : SpanKind) (span : Text) :
    (((parsed.recording depth (built.rejections.map Event.rejected)).recording depth
        [.read kind span]).adding occur built.clause built.failure?).seen view =
      ((parsed.seen view).recording depth [.read kind span]).adding occur (view built.clause)
        none := by
  have noted : ((parsed.recording depth (built.rejections.map Event.rejected)).recording depth
      [.read kind span]).Unbroken := unbroken
  rw [seen_adding view noted built.not_fatal, seen_recording view (by simp [Event.rejection?]),
    seen_recording_rejected]

theorem seen_group (aggregates : ∀ clauses : Clauses,
      view clauses.toClause = (clauses.map view).toClause)
    (unbroken : parsed.Unbroken) (occur : Occur) (body : Text) {inner : Parsed}
    (innerUnbroken : inner.Unbroken) :
    (((parsed.entering depth body inner).adding occur inner.clauses.toClause
        inner.failure).recording depth [.read .groupClose (body ++ [')'])]).seen view =
      (((parsed.seen view).entering depth body (inner.seen view)).adding occur
        (inner.seen view).clauses.toClause none).recording depth
          [.read .groupClose (body ++ [')'])] := by
  have entered : (parsed.entering depth body inner).Unbroken := unbroken
  rw [seen_recording view (by simp [Event.rejection?]), seen_adding view entered innerUnbroken,
    seen_entering, aggregates]
  rfl

end Parsed

open Parsed in
/-- Two settings that are told apart neither by their limit nor by the view of their terms are not
told apart by the view of what is parsed. -/
theorem parallel_seen {settings settings' : Settings} {view : Clause → Clause}
    (limit : settings'.maxDepth = settings.maxDepth)
    (aggregates : ∀ clauses : Clauses, view clauses.toClause = (clauses.map view).toClause)
    (terms : ∀ field kind raw, view (settings'.buildTerm field kind raw).clause =
      view (settings.buildTerm field kind raw).clause) :
    Parallel settings settings' fun parsed parsed' => parsed'.seen view = parsed.seen view where
  limit := limit
  fatal related := congrArg Parsed.failure related
  begins := rfl
  effect := by
    intro depth before before' after after' related unbroken unbroken' effect
    cases effect with
    | pass passing =>
        have accepted := fun event member => (passing event member).rejection?_eq
        rw [seen_recording view accepted, seen_recording view accepted, related]
    | term isBuilt isBuilt' =>
        rw [seen_term view unbroken, seen_term view unbroken', related, isBuilt, isBuilt', terms]
    | group relatedInner innerUnbroken innerUnbroken' =>
        rw [seen_group view aggregates unbroken _ _ innerUnbroken,
          seen_group view aggregates unbroken' _ _ innerUnbroken', related, relatedInner]
  abort := by
    intro depth before before' after after' related abort
    cases abort with
    | here isFatal => rw [seen_aborting view isFatal, seen_aborting view isFatal, related]
    | inside relatedInner _ _ isFatal =>
        rw [seen_aborting view isFatal, seen_aborting view isFatal, seen_entering, seen_entering,
          related, relatedInner]

/-- Checks change nothing but the values of leaves and what is refused. Whatever is checked, the
tree is the same without its values, the reading is ended by the same failure or not at all, and
the log is the same without refused values. If checks only give back what others refuse, the
values are the same too. -/
theorem checks_change_only_values (settings : Settings) (checks : Table ValueCheck)
    (query : Text) :
    let parsed := parse settings query
    let other := parse { settings with checks } query
    other.clauses.toClause.erased = parsed.clauses.toClause.erased ∧
    (∀ failure : Failure, failure.isFatal →
      (other.failure = some failure ↔ parsed.failure = some failure)) ∧
    (other.log.filter fun entry => entry.event.rejection?.isNone) =
      (parsed.log.filter fun entry => entry.event.rejection?.isNone) ∧
    ((∀ field, checks.find? field = (settings.checks.find? field).map ValueCheck.lenient) →
      other.clauses = parsed.clauses) := by
  intro parsed other
  have parallel : Parallel settings { settings with checks } fun parsed parsed' =>
      parsed'.seen Clause.erased = parsed.seen Clause.erased :=
    parallel_seen rfl Clauses.erased_toClause (settings.erased_buildTerm checks)
  have erased : other.seen Clause.erased = parsed.seen Clause.erased :=
    parseAt_of_parallel parallel 0 0 query
  refine ⟨?_, ?_, congrArg Parsed.log erased, ?_⟩
  · rw [Clauses.erased_toClause, Clauses.erased_toClause]
    exact congrArg (Clauses.toClause ∘ Parsed.clauses) erased
  · intro failure isFatal
    have sameFatal : other.fatal? = parsed.fatal? := congrArg Parsed.failure erased
    have reports : ∀ parsed : Parsed,
        parsed.failure = some failure ↔ parsed.fatal? = some failure := by
      simp [fatal?_eq_some_iff, isFatal]
    rw [reports, reports, sameFatal]
  · intro lenient
    have parallel : Parallel settings { settings with checks } fun parsed parsed' =>
        parsed'.seen id = parsed.seen id :=
      parallel_seen rfl (fun clauses => by rw [clauses.map_id]; rfl)
        (Settings.clause_buildTerm_lenient lenient)
    have whole : other.seen id = parsed.seen id := parseAt_of_parallel parallel 0 0 query
    have sameClauses : other.clauses.map id = parsed.clauses.map id :=
      congrArg Parsed.clauses whole
    rwa [Clauses.map_id, Clauses.map_id] at sameClauses

end SearchQuery
