import SearchQuery.Proofs.Scoping
import SearchQuery.Proofs.Tiling

/-! # The tree of a text by its spans

The spans that a text leaves in the log say all that there is to say of its tree. A sign tells how the
next clause is to occur, a term or a group that ends adds that clause, and nothing else counts.
`Replay` puts a tree together in this way from spans alone, and the tree of a parse is put together
from the spans of its text: whatever the text, every clause comes from the span that it was read
from, and stands where the signs in front of that span put it.
-/

namespace SearchQuery

namespace SpanKind

/-- How the next clause is to occur, if the span is a sign. -/
def sign? : SpanKind → Option Occur
  | .must => some .must
  | .mustNot => some .mustNot
  | .term | .field | .fieldValue | .blank | .groupOpen | .groupClose | .sigil _ => none

/-- Whether a clause comes from the span. -/
def addsClause : SpanKind → Bool
  | .term | .fieldValue | .groupClose => true
  | .field | .must | .mustNot | .blank | .groupOpen | .sigil _ => false

end SpanKind

/-- The clauses that can come from a span of a text in `depth` groups, if the span begins at byte
`first` of the query. Of a value the span does not tell the field, and the clause is then known to be
a leaf in scopes. -/
inductive Settings.Yields (settings : Settings) (depth first : Nat) : SpanKind × Text → Clause → Prop
    where
  | term {span : Text} :
      Yields settings depth first (.term, span) (settings.buildTerm none .auto span.trim).clause
  | fieldValue {span field : Text} {kind : MatchKind} {scopes : List Text} {leaf : Clause} :
      leaf.isLeaf →
      (settings.buildTerm (some field) kind span.trim).clause = scopes.foldr Clause.nested leaf →
      Yields settings depth first (.fieldValue, span) (scopes.foldr Clause.nested leaf)
  | group {body : Text} :
      Yields settings depth first (.groupClose, body ++ [')'])
        (parseAt settings (depth + 1) first body).clauses.toClause

/-- What the spans of a text in `depth` groups, from byte `base` of the query on, come to in their
order: the clauses, and how the next one is to occur. -/
inductive Replay (settings : Settings) (depth base : Nat) :
    List (SpanKind × Text) → Clauses → Occur → Prop where
  | begun : Replay settings depth base [] {} .should
  | sign {spans : List (SpanKind × Text)} {clauses : Clauses} {before occur : Occur}
      {kind : SpanKind} {span : Text} :
      Replay settings depth base spans clauses before → kind.sign? = some occur →
      Replay settings depth base (spans ++ [(kind, span)]) clauses occur
  | clause {spans : List (SpanKind × Text)} {clauses : Clauses} {occur : Occur}
      {span : SpanKind × Text} {clause : Clause} :
      Replay settings depth base spans clauses occur →
      settings.Yields depth (base + Text.byteSize (spans.flatMap Prod.snd)) span clause →
      Replay settings depth base (spans ++ [span]) (clauses.add occur clause) .should
  | other {spans : List (SpanKind × Text)} {clauses : Clauses} {occur : Occur} {kind : SpanKind}
      {span : Text} :
      Replay settings depth base spans clauses occur → kind.sign? = none →
      kind.addsClause = false →
      Replay settings depth base (spans ++ [(kind, span)]) clauses occur

variable {settings : Settings} {depth base : Nat} {text : Text}

/-- The clause of a term is one that the span of the term yields. -/
theorem Settings.yields_buildTerm (settings : Settings) (depth first : Nat) (field : Option Text)
    (kind : MatchKind) (span : Text) :
    settings.Yields depth first (if field.isSome then .fieldValue else .term, span)
      (settings.buildTerm field kind span.trim).clause := by
  cases field with
  | none => exact .term
  | some field =>
      generalize isClause : (settings.buildTerm (some field) kind span.trim).clause = clause
      have inScopes := isClause
      simp only [buildTerm, buildFielded, nest_eq] at inScopes
      rw [← inScopes]
      exact .fieldValue (Clause.isLeaf_of_baseField (kind.baseField?_leaf _ _ _))
        (isClause.trans inScopes.symm)

theorem Replay.others {spans more : List (SpanKind × Text)} {clauses : Clauses} {occur : Occur}
    (replay : Replay settings depth base spans clauses occur)
    (plain : ∀ span ∈ more, span.1.sign? = none ∧ span.1.addsClause = false) :
    Replay settings depth base (spans ++ more) clauses occur := by
  induction more generalizing spans with
  | nil =>
      rw [List.append_nil]
      exact replay
  | cons span more ih =>
      obtain ⟨noSign, noClause⟩ := plain span List.mem_cons_self
      rw [List.append_cons]
      exact ih (replay.other noSign noClause) fun other member =>
        plain other (List.mem_cons_of_mem _ member)

/-- Whether the clauses are what the spans of the text come to, so that the next one is to occur like
that. -/
def Parsed.Replays (settings : Settings) (depth base : Nat) (occur : Occur) (parsed : Parsed) : Prop :=
  Replay settings depth base (parsed.reads depth) parsed.clauses occur

namespace Parsed.Replays

variable {occur next : Occur} {parsed : Parsed} (replays : parsed.Replays settings depth base occur)

include replays

theorem sign {kind : SpanKind} {span : Text} (isSign : kind.sign? = some next) :
    (parsed.recording depth [.read kind span]).Replays settings depth base next := by
  rw [Replays, reads_recording]
  exact Replay.sign replays isSign

theorem others {events : List Event}
    (plain : ∀ span ∈ events.filterMap Event.read?,
      span.1.sign? = none ∧ span.1.addsClause = false) :
    (parsed.recording depth events).Replays settings depth base occur := by
  rw [Replays, reads_recording]
  exact Replay.others replays plain

theorem term {kind : SpanKind} {span : Text} {built : BuiltTerm} {failure : Option Failure}
    (yields : settings.Yields depth (base + Text.byteSize (parsed.committed depth)) (kind, span)
      built.clause) :
    (((parsed.recording depth (built.rejections.map Event.rejected)).recording depth
      [.read kind span]).adding occur built.clause failure).Replays settings depth base .should := by
  have noSpan : (built.rejections.map Event.rejected).filterMap Event.read? = [] := by
    simp [Event.read?]
  have spans : ((parsed.recording depth (built.rejections.map Event.rejected)).recording depth
      [.read kind span]).reads depth = parsed.reads depth ++ [(kind, span)] := by
    rw [reads_recording, reads_recording, noSpan, List.append_nil]
    rfl
  have replayed := Replay.clause replays yields
  rw [← spans] at replayed
  exact replayed

theorem group {body : Text} {inner : Parsed} {failure : Option Failure}
    (deeper : inner.Within (depth + 1))
    (yields : settings.Yields depth (base + Text.byteSize (parsed.committed depth))
      (.groupClose, body ++ [')']) inner.clauses.toClause) :
    (((parsed.entering depth body inner).adding occur inner.clauses.toClause failure).recording depth
      [.read .groupClose (body ++ [')'])]).Replays settings depth base .should := by
  have spans : (((parsed.entering depth body inner).adding occur inner.clauses.toClause
      failure).recording depth [.read .groupClose (body ++ [')'])]).reads depth =
      parsed.reads depth ++ [(.groupClose, body ++ [')'])] := by
    rw [reads_recording]
    exact congrArg (· ++ _) (reads_entering body deeper)
  have replayed := Replay.clause replays yields
  rw [← spans] at replayed
  exact replayed

theorem abort {after : Parsed} (abort : Abort settings depth parsed after) :
    after.Replays settings depth base occur := by
  obtain ⟨fatal, events, -, own, ending⟩ := abort.own_eq
  have noSpan : events.filterMap Event.read? = [] := by cases ending <;> rfl
  rw [Replays, abort.clauses_eq, reads, own, List.filterMap_append, noSpan, List.append_nil]
  exact replays

end Parsed.Replays

namespace Reader

variable {reader before after : Reader}

theorem occur_sigilled (scope : Scope) (reader : Reader) :
    (reader.sigilled scope).occur = reader.occur := by
  simp only [sigilled]
  split <;> rfl

/-- The clauses of a reader, and how it lets the next one occur, are what its spans come to. In a
group that is how the clause of the group will occur. -/
structure Replayed (settings : Settings) (depth base : Nat) (reader : Reader) : Prop where
  replays : reader.parsed.Replays settings depth base reader.occur
  occur_of_group : ∀ group, reader.mode = .group group → group.occur = reader.occur

theorem Tiles.start_eq (tiles : reader.Tiles depth) (behind : reader.cursor.span?.isSome) :
    reader.cursor.start = Text.byteSize (reader.parsed.committed depth) := by
  obtain ⟨span, isSpan⟩ := Option.isSome_iff_exists.1 behind
  rw [tiles, Text.byteSize_reverse, Cursor.start, isSpan]

theorem Replayed.move (replayed : before.Replayed settings depth base)
    (behind : before.cursor.span?.isSome) (tiles : before.Tiles depth)
    (move : Move (settings.scope depth base) before after) :
    after.Replayed settings depth base := by
  obtain ⟨replays, occurs⟩ := replayed
  cases move with
  | finish | beginTerm => exact ⟨replays, by rintro _ ⟨⟩⟩
  | escape | content => exact ⟨replays, occurs⟩
  | @inside group c mode =>
      refine ⟨replays, ?_⟩
      intro other isOther
      cases isOther
      rw [OpenGroup.occur_after]
      exact occurs group mode
  | @mark c kind occur span mode atCursor mark known =>
      refine ⟨?_, ?_⟩
      · rw [parsed_committing]
        cases mark with
        | blank => exact replays.others (by simp [Event.read?, SpanKind.sign?, SpanKind.addsClause])
        | must | mustNot => exact replays.sign rfl
      · intro group isGroup
        cases mode.symm.trans isGroup
  | @openGroup span offset mode atCursor known isOffset =>
      refine ⟨?_, ?_⟩
      · rw [parsed_opening]
        exact replays.others (by simp [Event.read?, SpanKind.sign?, SpanKind.addsClause])
      · intro group isGroup
        cases isGroup
        rfl
  | @name c name span named mode atCursor delimiter outside noField value nonempty spot known =>
      obtain ⟨events, recorded, reads⟩ :=
        parsed_sigilled_of_name spot (settings.scope depth base) name span
      refine ⟨?_, ?_⟩
      · rw [recorded, occur_sigilled]
        rw [← occur_of_spot spot] at replays
        refine replays.others ?_
        intro other member
        obtain ⟨event, isEvent, isRead⟩ := List.mem_filterMap.1 member
        rcases List.mem_cons.1 isEvent with rfl | isSigil
        · cases isRead
          exact ⟨rfl, rfl⟩
        · obtain ⟨sigil, span, rfl⟩ := reads event isSigil
          cases isRead
          exact ⟨rfl, rfl⟩
      · intro group isGroup
        cases ((mode_name spot).trans mode).symm.trans isGroup
  | @endTerm span mode atEnd known =>
      refine ⟨?_, by rintro _ ⟨⟩⟩
      rw [parsed_endingTerm _ _ _ rfl]
      exact replays.term (settings.yields_buildTerm depth _ before.field before.kind span)
  | unclosed | tooDeep =>
      refine ⟨?_, by rintro _ ⟨⟩⟩
      rw [parsed_abort]
      exact replays.abort (.here rfl)
  | failInside mode atCursor closes allowed known entered failed isFatal =>
      obtain ⟨within, isInner⟩ := eq_parseAt_of_enter allowed entered
      refine ⟨?_, by rintro _ ⟨⟩⟩
      rw [parsed_abort, parsed_entering]
      exact replays.abort (.inside within isInner failed isFatal)
  | @closeGroup group body _ inner mode atCursor closes allowed known entered =>
      refine ⟨?_, by rintro _ ⟨⟩⟩
      rw [parsed_leaving, occurs group mode]
      refine replays.group (within_of_enter allowed entered) ?_
      obtain ⟨-, rfl⟩ := eq_parseAt_of_enter allowed entered
      rw [← tiles.start_eq behind]
      exact .group

theorem Reaches.replayed (reached : Reaches (settings.scope depth base) (ofText text) reader) :
    reader.Replayed settings depth base := by
  induction reached with
  | refl => exact ⟨.begun, nofun⟩
  | step reached running ran ih =>
      have sound := reached.sound
      have move := move_of_step? isSome_enter_scope sound running ran
      exact ih.move sound.behind reached.tiles move

end Reader

/-- The tree of a text that a parse reads is put together from the spans that the text itself was read
in, with those of the groups in it left out, whether its reading was ended or not. -/
theorem tree_replays_spans {settings : Settings} {query text : Text} {depth base : Nat}
    (invoked : Invoked settings query depth base text) :
    let parsed := parseAt settings depth base text
    parsed.log <:+: (parse settings query).log ∧
    ∃ occur, Replay settings depth base (parsed.reads depth) parsed.clauses occur := by
  intro parsed
  obtain ⟨last, reached, -, same⟩ := exists_done_parseAt settings depth base text
  have replays := reached.replayed.replays
  rw [same] at replays
  exact ⟨invoked.log_isInfix, last.occur, replays⟩

/-- In the group of `+(-a n=b)` the sign is for the term behind it, and for that alone. -/
theorem tree_replays_spans_in_group :
    let settings : Settings := { defaultFields := [['f']] }
    let query : Text := ['+', '(', '-', 'a', ' ', 'n', '=', 'b', ')']
    let body : Text := ['-', 'a', ' ', 'n', '=', 'b']
    let parsed := parseAt settings 1 2 body
    Invoked settings query 1 2 body ∧ parsed.log <:+: (parse settings query).log ∧
    parsed.reads 1 = [(.mustNot, ['-']), (.term, ['a', ' ']), (.field, ['n']),
      (.sigil .keyword, ['=']), (.fieldValue, ['b'])] ∧
    parsed.clauses =
      { mustNot := [.bool [] [] [.text ['f'] ['a'] false]]
        should := [.keyword (['n'] ++ Text.ofString ".keyword") ['b']] } ∧
    ∃ occur, Replay settings 1 2 (parsed.reads 1) parsed.clauses occur := by
  intro settings query body parsed
  obtain ⟨reader, reached, closing⟩ : ∃ reader,
      Reader.Reaches (settings.scope 0 0) (.ofText query) reader ∧
        reader.closing? 0 = some (2, body) := by
    -- The reader leaves the sign, opens the group and goes through the six characters in it.
    refine ⟨_, .step (.step (.step (.step (.step (.step (.step (.step .refl ?_ rfl) ?_ rfl) ?_ rfl)
      ?_ rfl) ?_ rfl) ?_ rfl) ?_ rfl) ?_ rfl, ?_⟩
    all_goals decide +kernel
  have invoked : Invoked settings query 1 2 body := .inner .outer (by decide) reached closing
  obtain ⟨isPart, replayed⟩ := tree_replays_spans invoked
  exact ⟨invoked, isPart, by decide +kernel, by decide +kernel, replayed⟩

end SearchQuery
