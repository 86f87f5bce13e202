import SearchQuery.Proofs.CheckedLeaves
import SearchQuery.Proofs.OwnEvents

/-! # The fields that a query searches

A term is for the default fields, or for the field that is named in front of it. So every leaf of a
tree was made for a default field, or for the stored field of a name that was read. A group has no
field of its own to add, and none is passed on from one term to the next.
-/

namespace SearchQuery

/-- Whether the name of a field was read. A colon behind it is read with it. -/
def Named (events : List Event) (name : Text) : Prop :=
  ∃ text, name = Text.trim text ∧
    (.read .field text ∈ events ∨ .read .field (text ++ [':']) ∈ events)

theorem Named.mono {events later : List Event} {name : Text} (named : Named events name)
    (more : events ⊆ later) : Named later name := by
  obtain ⟨text, isName, read⟩ := named
  exact ⟨text, isName, read.imp (@more _) (@more _)⟩

/-- The stored fields that terms are for, if this is what was read. -/
inductive Settings.Searches (settings : Settings) (events : List Event) : Text → Prop where
  | default {field : Text} : field ∈ settings.defaultFields → Searches settings events field
  | named {name : Text} : Named events name →
      Searches settings events (settings.storedField name)

/-- Whether the leaf is one that is made for the fields that are searched. -/
def Settings.Finds (settings : Settings) (events : List Event) (leaf : Clause) : Prop :=
  ∃ (kind : MatchKind) (field value : Text) (quoted : Bool),
    leaf = kind.leaf field value quoted ∧ settings.Searches events field

namespace Settings

variable {settings : Settings} {events later : List Event} {leaf : Clause}

theorem Searches.mono {field : Text} (searches : settings.Searches events field)
    (more : events ⊆ later) : settings.Searches later field := by
  cases searches with
  | default isDefault => exact .default isDefault
  | named named => exact .named (named.mono more)

theorem Finds.mono (finds : settings.Finds events leaf) (more : events ⊆ later) :
    settings.Finds later leaf := by
  obtain ⟨kind, field, value, quoted, isLeaf, searches⟩ := finds
  exact ⟨kind, field, value, quoted, isLeaf, searches.mono more⟩

theorem finds_of_mem_buildTerm {field : Option Text} {kind : MatchKind} {raw : Text}
    (named : ∀ name, field = some name → Named events name)
    (member : leaf ∈ (settings.buildTerm field kind raw).clause.leaves) :
    settings.Finds events leaf := by
  cases field with
  | none =>
      obtain ⟨field, isDefault, isLeaf⟩ := mem_leaves_buildDefault.1 member
      exact ⟨.auto, field, _, _, isLeaf, .default isDefault⟩
  | some field =>
      obtain ⟨literal, leaves, -⟩ := settings.leaves_buildFielded field raw kind
      exact ⟨kind, _, _, _, List.mem_singleton.1 (leaves ▸ member), .named (named field rfl)⟩

end Settings

/-- Whether all leaves are made for fields that are searched. -/
def Parsed.Searching (settings : Settings) (parsed : Parsed) : Prop :=
  ∀ leaf ∈ parsed.clauses.leaves, settings.Finds parsed.events leaf

namespace Reader

variable {settings : Settings} {depth base : Nat} {before after reader : Reader}

theorem field_sigilled (scope : Scope) (reader : Reader) :
    (reader.sigilled scope).field = reader.field := by
  simp only [sigilled]
  split <;> rfl

/-- All leaves are made for fields that are searched, and so will be that of the term that is read. -/
structure Sourced (settings : Settings) (reader : Reader) : Prop where
  searching : reader.parsed.Searching settings
  named : ∀ name, reader.field = some name → Named reader.parsed.events name

theorem Sourced.of_subset (sourced : before.Sourced settings)
    (more : before.parsed.events ⊆ after.parsed.events) (clauses : after.clauses = before.clauses)
    (field : after.field = before.field) : after.Sourced settings := by
  obtain ⟨searching, named⟩ := sourced
  constructor
  · intro leaf member
    rw [parsed, clauses] at member
    exact (searching leaf member).mono more
  · intro name isName
    exact (named name (field.symm.trans isName)).mono more

theorem named_of_span {c : Char} {name span : Text} {named : Reader}
    (atCursor : before.cursor.rest.head? = some c) (value : before.cursor.value? = some name)
    (spot : named = if c = ':' then before.ahead else before.still)
    (known : named.cursor.spanText? = some span) : Named [.read .field span] name := by
  -- The span of a name is the name itself, with a colon behind it if that ends it.
  obtain ⟨text, isText, rfl⟩ := Option.map_eq_some_iff.1 value
  refine ⟨text, rfl, ?_⟩
  by_cases isColon : c = ':'
  · rw [spot, if_pos isColon] at known
    cases known.symm.trans (Cursor.spanText?_next atCursor isText)
    exact .inr (by rw [isColon]; exact List.mem_singleton_self _)
  · rw [spot, if_neg isColon] at known
    cases known.symm.trans isText
    exact .inl (List.mem_singleton_self _)

theorem Sourced.move
    (inside : depth < settings.maxDepth → ∀ first body,
      (parseAt settings (depth + 1) first body).Searching settings)
    (sourced : before.Sourced settings) (move : Move (settings.scope depth base) before after) :
    after.Sourced settings := by
  have more : before.parsed.events ⊆ after.parsed.events :=
    (move.log_isPrefix.map Entry.event).subset
  cases move with
  | finish | escape | mark | openGroup | beginTerm | content | inside | unclosed | tooDeep
  | failInside => exact sourced.of_subset more rfl rfl
  | @name c name span named mode atCursor delimiter outside noField value nonempty spot known =>
      obtain ⟨events, recorded, -⟩ :=
        parsed_sigilled_of_name spot (settings.scope depth base) name span
      have isName : [Event.read .field span] ⊆ before.parsed.events ++ .read .field span :: events := by
        simp
      rw [recorded, Parsed.events_recording] at more
      constructor
      · rw [recorded]
        intro leaf member
        exact (sourced.searching leaf member).mono (by rwa [Parsed.events_recording])
      · intro other isOther
        rw [field_sigilled] at isOther
        cases isOther
        rw [recorded, Parsed.events_recording]
        exact (named_of_span atCursor value spot known).mono isName
  | endTerm =>
      refine ⟨?_, nofun⟩
      rw [parsed_endingTerm _ _ _ rfl] at more ⊢
      intro leaf member
      rcases Clauses.mem_leaves_add.1 member with old | new
      · exact (sourced.searching leaf old).mono more
      · exact (Settings.finds_of_mem_buildTerm sourced.named new).mono more
  | @closeGroup group body _ inner mode atCursor closes allowed known entered =>
      obtain ⟨within, rfl⟩ := eq_parseAt_of_enter allowed entered
      refine ⟨?_, nofun⟩
      rw [parsed_leaving] at more ⊢
      intro leaf member
      rcases Clauses.mem_leaves_add.1 member with old | new
      · exact (sourced.searching leaf old).mono more
      · refine (inside within _ _ leaf new).mono ?_
        intro event isEvent
        simp [isEvent]

end Reader

/-- Every leaf of a tree is made for a default field or for the stored field of a name in the text. -/
theorem searching_parseAt (settings : Settings) (depth base : Nat) (text : Text) :
    (parseAt settings depth base text).Searching settings := by
  refine @parseAt_induction settings (fun _ _ _ parsed => parsed.Searching settings) ?_ depth base text
  intro depth base text inside
  obtain ⟨last, sourced, -, same⟩ := @exists_done_of_moves settings depth base text
    (fun reader => reader.Sourced settings) ⟨nofun, nofun⟩ (by
      intro before after _ sourced move
      exact sourced.move inside move)
  rw [← same]
  exact sourced.searching

end SearchQuery
