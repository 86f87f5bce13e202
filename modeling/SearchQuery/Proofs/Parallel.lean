import SearchQuery.Proofs.GroupEvents

/-! # Reading a text with two settings

What a reader does next does not depend on what it has parsed so far, and on the settings only by
their limit. So with two settings of the same limit a text is read in the same moves, and what is
parsed with them differs no more than their terms do: `parseAt_of_parallel` carries a relation
through both parses at once.
-/

namespace SearchQuery

/-- A change of what has been parsed with each of two settings, after which reading goes on. -/
inductive EffectPair (settings settings' : Settings) (Related : Parsed → Parsed → Prop)
    (depth : Nat) (before before' : Parsed) : Parsed → Parsed → Prop where
  | pass {events : List Event} : (∀ event ∈ events, event.Passing) →
      EffectPair settings settings' Related depth before before'
        (before.recording depth events) (before'.recording depth events)
  | term {occur : Occur} {field : Option Text} {kind : MatchKind} {spanKind : SpanKind}
      {span : Text} {built built' : BuiltTerm} :
      built = settings.buildTerm field kind (Text.trim span) →
      built' = settings'.buildTerm field kind (Text.trim span) →
      EffectPair settings settings' Related depth before before'
        (((before.recording depth (built.rejections.map Event.rejected)).recording depth
          [.read spanKind span]).adding occur built.clause built.failure?)
        (((before'.recording depth (built'.rejections.map Event.rejected)).recording depth
          [.read spanKind span]).adding occur built'.clause built'.failure?)
  | group {occur : Occur} {body : Text} {inner inner' : Parsed} :
      Related inner inner' → inner.Unbroken → inner'.Unbroken →
      EffectPair settings settings' Related depth before before'
        (((before.entering depth body inner).adding occur inner.clauses.toClause
          inner.failure).recording depth [.read .groupClose (body ++ [')'])])
        (((before'.entering depth body inner').adding occur inner'.clauses.toClause
          inner'.failure).recording depth [.read .groupClose (body ++ [')'])])

/-- A change of what has been parsed with each of two settings that ends both readings. -/
inductive AbortPair (Related : Parsed → Parsed → Prop) (depth : Nat) (before before' : Parsed) :
    Parsed → Parsed → Prop where
  | here {fatal : Failure} : fatal.isFatal → AbortPair Related depth before before'
      (before.aborting depth fatal) (before'.aborting depth fatal)
  | inside {body : Text} {inner inner' : Parsed} {fatal : Failure} :
      Related inner inner' → inner.failure = some fatal → inner'.failure = some fatal →
      fatal.isFatal → AbortPair Related depth before before'
        ((before.entering depth body inner).aborting depth fatal)
        ((before'.entering depth body inner').aborting depth fatal)

/-- A relation that holds at the beginning of a text, that reading keeps, and under which both
readings are ended by the same failure or by none. -/
structure Parallel (settings settings' : Settings) (Related : Parsed → Parsed → Prop) : Prop where
  limit : settings'.maxDepth = settings.maxDepth
  fatal : ∀ {parsed parsed' : Parsed}, Related parsed parsed' → parsed'.fatal? = parsed.fatal?
  begins : Related .empty .empty
  effect : ∀ {depth : Nat} {before before' after after' : Parsed}, Related before before' →
    before.Unbroken → before'.Unbroken →
    EffectPair settings settings' Related depth before before' after after' → Related after after'
  abort : ∀ {depth : Nat} {before before' after after' : Parsed}, Related before before' →
    AbortPair Related depth before before' after after' → Related after after'

/-- Whether what is parsed from the groups of a text with each of two settings is related. -/
def GroupsRelated (settings settings' : Settings) (Related : Parsed → Parsed → Prop)
    (depth : Nat) : Prop :=
  depth < settings.maxDepth → ∀ first body,
    Related (parseAt settings (depth + 1) first body) (parseAt settings' (depth + 1) first body)

namespace Reader

/-- The reader if something else had been parsed so far. -/
def withParsed (parsed : Parsed) (reader : Reader) : Reader :=
  { reader with
    clauses := parsed.clauses, failure := parsed.failure, log := parsed.log.reverse }

@[simp] theorem parsed_withParsed (parsed : Parsed) (reader : Reader) :
    (reader.withParsed parsed).parsed = parsed := by
  simp [withParsed, Reader.parsed]

theorem eq_withParsed {reader next : Reader} (cursor : next.cursor = reader.cursor)
    (mode : next.mode = reader.mode) (occur : next.occur = reader.occur)
    (field : next.field = reader.field) (kind : next.kind = reader.kind)
    (enclosure : next.enclosure = reader.enclosure) : next = reader.withParsed next.parsed := by
  simp [withParsed, Reader.parsed, ← cursor, ← mode, ← occur, ← field, ← kind, ← enclosure]

variable {settings settings' : Settings} {depth base : Nat} {text : Text}
  {Related : Parsed → Parsed → Prop} {before after reader : Reader}

theorem sigilled_withParsed (scope : Scope) (other : Parsed) (reader : Reader) :
    ∃ events, (reader.sigilled scope).parsed = reader.parsed.recording scope.depth events ∧
      ((reader.withParsed other).sigilled scope).parsed =
        (reader.withParsed other).parsed.recording scope.depth events ∧
      (reader.withParsed other).sigilled scope =
        (reader.sigilled scope).withParsed ((reader.withParsed other).sigilled scope).parsed ∧
      ∀ event ∈ events, event.Passing := by
  have atCursor : (reader.withParsed other).cursor = reader.cursor := rfl
  have passing : ∀ sigil span, ∀ event ∈ [Event.read (.sigil sigil) span], event.Passing := by
    intro sigil span
    exact List.forall_mem_singleton.2 (.read (by simp))
  cases isSigil : reader.cursor.rest.head?.bind Sigil.ofChar? with
  | none =>
      simp only [sigilled, atCursor, isSigil]
      exact ⟨[], by simp [Parsed.recording], by simp [Parsed.recording],
        eq_withParsed rfl rfl rfl rfl rfl rfl, by simp⟩
  | some sigil =>
      cases sigil with
      | freeText | keyword | regex | above | below =>
          simp only [sigilled, atCursor, isSigil]
          exact ⟨_, parsed_committing scope _ _ _, parsed_committing scope _ _ _,
            eq_withParsed rfl rfl rfl rfl rfl rfl, passing _ _⟩

/-- What the readers with each of two settings come to by one move. -/
def Pairs (settings settings' : Settings) (Related : Parsed → Parsed → Prop) (depth : Nat)
    (before before' after after' : Reader) : Prop :=
  EffectPair settings settings' Related depth before.parsed before'.parsed after.parsed
      after'.parsed ∨
    after.mode = .done ∧
      AbortPair Related depth before.parsed before'.parsed after.parsed after'.parsed

/-- Whether a move with the other settings takes a reader with something else parsed so far to where a
move takes the reader. -/
def Followed (settings settings' : Settings) (Related : Parsed → Parsed → Prop) (depth base : Nat)
    (before after : Reader) (other : Parsed) : Prop :=
  ∃ next, Move (settings'.scope depth base) (before.withParsed other) next ∧
    next = after.withParsed next.parsed ∧
    Pairs settings settings' Related depth before (before.withParsed other) after next

section

variable {other : Parsed} {next : Reader}

theorem followed_of_recording {events : List Event}
    (move : Move (settings'.scope depth base) (before.withParsed other) next)
    (same : next = after.withParsed next.parsed) (passing : ∀ event ∈ events, event.Passing)
    (recorded : after.parsed = before.parsed.recording depth events)
    (recorded' : next.parsed = (before.withParsed other).parsed.recording depth events) :
    Followed settings settings' Related depth base before after other := by
  refine ⟨next, move, same, .inl ?_⟩
  rw [recorded, recorded']
  exact .pass passing

theorem followed_of_parsed_eq (move : Move (settings'.scope depth base) (before.withParsed other) next)
    (same : next = after.withParsed next.parsed) (unchanged : after.parsed = before.parsed)
    (unchanged' : next.parsed = (before.withParsed other).parsed) :
    Followed settings settings' Related depth base before after other := by
  have nothing : ∀ parsed : Parsed, parsed = parsed.recording depth [] := by
    simp [Parsed.recording]
  have passing : ∀ event ∈ ([] : List Event), event.Passing := by simp
  exact followed_of_recording move same passing (unchanged.trans (nothing _))
    (unchanged'.trans (nothing _))

theorem followed_name {c : Char} {name span : Text} {named : Reader} (mode : before.mode = .term)
    (atCursor : before.cursor.rest.head? = some c) (delimiter : isFieldDelimiter c)
    (outside : before.enclosure = none) (noField : before.field = none)
    (value : before.cursor.value? = some name) (nonempty : name ≠ [])
    (spot : named = if c = ':' then before.ahead else before.still)
    (known : named.cursor.spanText? = some span) :
    Followed settings settings' Related depth base before
      ((committing (settings.scope depth base) .field span { named with field := some name }).sigilled
        (settings.scope depth base)) other := by
  have stillSpot : named.withParsed other =
      if c = ':' then (before.withParsed other).ahead else (before.withParsed other).still := by
    rw [spot]
    split <;> rfl
  let behind := committing (settings.scope depth base) .field span { named with field := some name }
  let behind' := committing (settings'.scope depth base) .field span
    { named.withParsed other with field := some name }
  have same : behind' = behind.withParsed behind'.parsed :=
    eq_withParsed rfl rfl rfl rfl rfl rfl
  obtain ⟨events, recorded, recorded', isNext, passing⟩ :=
    sigilled_withParsed (settings'.scope depth base) behind'.parsed behind
  have allPassing : ∀ event ∈ [.read .field span] ++ events, event.Passing :=
    List.forall_mem_cons.2 ⟨.read (by simp), passing⟩
  rw [← same] at recorded' isNext
  have sameParsed : named.parsed = before.parsed := parsed_of_spot spot
  have recordedName : behind.parsed = before.parsed.recording depth [.read .field span] :=
    (parsed_committing _ _ _ _).trans (congrArg (Parsed.recording depth _) sameParsed)
  have recordedName' : behind'.parsed =
      (before.withParsed other).parsed.recording depth [.read .field span] :=
    parsed_committing _ _ _ _
  refine followed_of_recording
    (.name mode atCursor delimiter outside noField value nonempty stillSpot known) isNext allPassing
    ?_ ?_
  · rw [← Parsed.recording_recording, ← recordedName]
    exact recorded
  · rw [← Parsed.recording_recording, ← recordedName']
    exact recorded'

theorem followed_tooDeep {group : OpenGroup} (parallel : Parallel settings settings' Related)
    (mode : before.mode = .group group) (atCursor : before.cursor.rest.head? = some ')')
    (closes : group.Closes ')') (atLimit : (settings.scope depth base).enter? = none)
    (behind : before.cursor.span?.isSome) :
    Followed settings settings' Related depth base before
      (before.still.abort (settings.scope depth base) (.nestedTooDeep settings.maxDepth)) other := by
  have stillAtLimit : (settings'.scope depth base).enter? = none := by
    apply enter?_scope_of_le
    rw [parallel.limit]
    exact le_of_enter?_eq_none atLimit
  have limit : (settings'.scope depth base).settings.maxDepth = settings.maxDepth := parallel.limit
  refine ⟨_, .tooDeep mode atCursor closes stillAtLimit behind,
    eq_withParsed rfl rfl rfl rfl rfl rfl, .inr ⟨rfl, ?_⟩⟩
  rw [parsed_abort, parsed_abort, limit]
  exact .here rfl

theorem entered_parallel (parallel : Parallel settings settings' Related)
    (inside : GroupsRelated settings settings' Related depth)
    {enter : Nat → Text → Option Parsed} {first : Nat} {body : Text} {inner : Parsed}
    (allowed : (settings.scope depth base).enter? = some enter)
    (entered : enter first body = some inner) :
    let enter' := fun first body => some (parseAt settings' (depth + 1) first body)
    ∃ inner', (settings'.scope depth base).enter? = some enter' ∧
      enter' first body = some inner' ∧ Related inner inner' := by
  obtain ⟨within, rfl⟩ := eq_parseAt_of_enter allowed entered
  exact ⟨_, enter?_scope_of_lt (parallel.limit ▸ within), rfl, inside within first body⟩

theorem followed_failInside {group : OpenGroup} {body : Text} {enter : Nat → Text → Option Parsed}
    {inner : Parsed} {fatal : Failure} (parallel : Parallel settings settings' Related)
    (inside : GroupsRelated settings settings' Related depth) (mode : before.mode = .group group)
    (atCursor : before.cursor.rest.head? = some ')') (closes : group.Closes ')')
    (allowed : (settings.scope depth base).enter? = some enter)
    (known : before.cursor.spanText? = some body)
    (entered : enter (base + before.cursor.start) body = some inner)
    (failed : inner.failure = some fatal) (isFatal : fatal.isFatal) :
    Followed settings settings' Related depth base before
      ((before.still.entering (settings.scope depth base) body inner).abort
        (settings.scope depth base) fatal) other := by
  obtain ⟨inner', allowed', entered', related⟩ := entered_parallel parallel inside allowed entered
  have failed' := (fatal?_eq_some_iff.1
    ((parallel.fatal related).trans (Parsed.fatal?_of_isFatal failed isFatal))).1
  refine ⟨_, .failInside mode atCursor closes allowed' known entered' failed' isFatal,
    eq_withParsed rfl rfl rfl rfl rfl rfl, .inr ⟨rfl, ?_⟩⟩
  rw [parsed_abort, parsed_abort, parsed_entering, parsed_entering]
  exact .inside related failed failed' isFatal

theorem followed_closeGroup {group : OpenGroup} {body : Text} {enter : Nat → Text → Option Parsed}
    {inner : Parsed} (parallel : Parallel settings settings' Related)
    (inside : GroupsRelated settings settings' Related depth) (mode : before.mode = .group group)
    (atCursor : before.cursor.rest.head? = some ')') (closes : group.Closes ')')
    (allowed : (settings.scope depth base).enter? = some enter)
    (known : before.cursor.spanText? = some body)
    (entered : enter (base + before.cursor.start) body = some inner) (notFatal : inner.Unbroken) :
    Followed settings settings' Related depth base before
      (before.still.leaving (settings.scope depth base) group.occur body inner) other := by
  obtain ⟨inner', allowed', entered', related⟩ := entered_parallel parallel inside allowed entered
  have notFatal' := Parsed.fatal?_eq_none_iff.1
    ((parallel.fatal related).trans (Parsed.Unbroken.fatal?_eq notFatal))
  refine ⟨_, .closeGroup mode atCursor closes allowed' known entered' notFatal',
    eq_withParsed rfl rfl rfl rfl rfl rfl, .inl ?_⟩
  rw [parsed_leaving, parsed_leaving]
  exact .group related notFatal notFatal'

end

theorem Move.parallel (parallel : Parallel settings settings' Related)
    (inside : GroupsRelated settings settings' Related depth)
    (move : Move (settings.scope depth base) before after) (other : Parsed) :
    Followed settings settings' Related depth base before after other := by
  cases move with
  | finish mode atEnd =>
      exact followed_of_parsed_eq (.finish mode atEnd) (eq_withParsed rfl rfl rfl rfl rfl rfl) rfl rfl
  | escape running atCursor =>
      exact followed_of_parsed_eq (.escape running atCursor) (eq_withParsed rfl rfl rfl rfl rfl rfl)
        rfl rfl
  | beginTerm mode atCursor notMark =>
      exact followed_of_parsed_eq (.beginTerm mode atCursor notMark)
        (eq_withParsed rfl rfl rfl rfl rfl rfl) rfl rfl
  | content mode atCursor notEscape spaceInside delimiterInside =>
      exact followed_of_parsed_eq (.content mode atCursor notEscape spaceInside delimiterInside)
        (eq_withParsed rfl rfl rfl rfl rfl rfl) rfl rfl
  | inside mode atCursor notEscape positive notClosing =>
      exact followed_of_parsed_eq (.inside mode atCursor notEscape positive notClosing)
        (eq_withParsed rfl rfl rfl rfl rfl rfl) rfl rfl
  | @mark c kind occur span mode atCursor mark known =>
      have passing : ∀ event ∈ [Event.read kind span], event.Passing := by
        refine List.forall_mem_singleton.2 (.read ?_)
        cases mark <;> simp
      exact followed_of_recording (.mark mode atCursor mark known)
        (eq_withParsed rfl rfl rfl rfl rfl rfl) passing (parsed_committing _ kind span _)
        (parsed_committing _ kind span _)
  | @openGroup span offset mode atCursor known isOffset =>
      have passing : ∀ event ∈ [Event.read .groupOpen span, .groupOpened offset (depth + 1)],
          event.Passing :=
        List.forall_mem_cons.2 ⟨.read nofun, List.forall_mem_singleton.2 .groupOpened⟩
      exact followed_of_recording (.openGroup mode atCursor known isOffset)
        (eq_withParsed rfl rfl rfl rfl rfl rfl) passing (parsed_opening _ span offset _ before)
        (parsed_opening _ span offset _ (before.withParsed other))
  | name mode atCursor delimiter outside noField value nonempty spot known =>
      exact followed_name mode atCursor delimiter outside noField value nonempty spot known
  | @endTerm span mode atEnd known =>
      refine ⟨_, .endTerm mode atEnd known, eq_withParsed rfl rfl rfl rfl rfl rfl, .inl ?_⟩
      rw [parsed_endingTerm _ _ _ rfl, parsed_endingTerm _ _ _ rfl]
      exact .term rfl rfl
  | unclosed mode atEnd =>
      refine ⟨_, .unclosed mode atEnd, eq_withParsed rfl rfl rfl rfl rfl rfl, .inr ⟨rfl, ?_⟩⟩
      rw [parsed_abort, parsed_abort]
      exact .here rfl
  | tooDeep mode atCursor closes atLimit behind =>
      exact followed_tooDeep parallel mode atCursor closes atLimit behind
  | failInside mode atCursor closes allowed known entered failed isFatal =>
      exact followed_failInside parallel inside mode atCursor closes allowed known entered failed
        isFatal
  | closeGroup mode atCursor closes allowed known entered notFatal =>
      exact followed_closeGroup parallel inside mode atCursor closes allowed known entered notFatal

theorem Reaches.parallel (parallel : Parallel settings settings' Related)
    (inside : GroupsRelated settings settings' Related depth)
    (reached : Reaches (settings.scope depth base) (ofText text) reader) :
    ∃ other, Reaches (settings'.scope depth base) (ofText text) (reader.withParsed other) ∧
      Related reader.parsed other := by
  induction reached with
  | refl => exact ⟨.empty, .refl, parallel.begins⟩
  | @step before after reached running ran ih =>
      obtain ⟨other, reached', related⟩ := ih
      have unbroken := reached.unbroken running
      have unbroken' : other.Unbroken :=
        Parsed.fatal?_eq_none_iff.1 ((parallel.fatal related).trans unbroken.fatal?_eq)
      have move := move_of_step? isSome_enter_scope reached.sound running ran
      obtain ⟨next, move', same, pairs⟩ := move.parallel parallel inside other
      refine ⟨next.parsed, ?_, ?_⟩
      · rw [← same]
        exact reached'.trans (.move move')
      · rw [Pairs, parsed_withParsed] at pairs
        rcases pairs with effect | ⟨-, abort⟩
        · exact parallel.effect related unbroken unbroken' effect
        · exact parallel.abort related abort

end Reader

/-- What is parsed from a text with each of two settings is related if terms and groups keep the
relation. -/
theorem parseAt_of_parallel {settings settings' : Settings} {Related : Parsed → Parsed → Prop}
    (parallel : Parallel settings settings' Related) (depth base : Nat) (text : Text) :
    Related (parseAt settings depth base text) (parseAt settings' depth base text) := by
  refine @parseAt_induction settings
    (fun depth base text parsed => Related parsed (parseAt settings' depth base text)) ?_
    depth base text
  intro depth base text inside
  obtain ⟨last, reached, done, same⟩ := exists_done_parseAt settings depth base text
  obtain ⟨other, reached', related⟩ := reached.parallel parallel inside
  have same' : other = parseAt settings' depth base text := by
    rw [← reached'.parsed_of_done done, Reader.parsed_withParsed]
  rw [← same, ← same']
  exact related

/-- Settings with the same limit that make the same of every term make the same of every text. -/
theorem parseAt_eq_of_terms {settings settings' : Settings}
    (limit : settings'.maxDepth = settings.maxDepth)
    (terms : ∀ field kind raw, settings'.buildTerm field kind raw = settings.buildTerm field kind raw)
    (depth base : Nat) (text : Text) :
    parseAt settings' depth base text = parseAt settings depth base text := by
  have parallel : Parallel settings settings' fun parsed parsed' => parsed' = parsed :=
    { limit
      fatal := fun related => congrArg Parsed.fatal? related
      begins := rfl
      effect := by
        intro depth before before' after after' related _ _ effect
        cases effect with
        | pass => rw [related]
        | term isBuilt isBuilt' => rw [related, isBuilt, isBuilt', terms]
        | group relatedInner => rw [related, relatedInner]
      abort := by
        intro depth before before' after after' related abort
        cases abort with
        | here => rw [related]
        | inside relatedInner => rw [related, relatedInner] }
  exact parseAt_of_parallel parallel depth base text

end SearchQuery
