import SearchQuery.Proofs.FieldMapping
import SearchQuery.Proofs.Parallel

/-! # The order of nested paths

The scopes of a field are all beginnings of its name, so one of them holds every longer one, and no
two of one length differ. Sorting by length alone therefore settles their order, and in whatever
order the settings list the nested paths, the same comes of every clause and of every query.
-/

namespace SearchQuery

namespace Field

variable {outer inner field : Text}

theorem isWithin_iff :
    isWithin outer field ↔ field = outer ∨ ∃ rest, field = outer ++ '.' :: rest := by
  have below : (below? outer field).isSome ↔ ∃ rest, field = outer ++ '.' :: rest := by
    simp only [Option.isSome_iff_exists, below?_eq_some_iff]
    constructor
    · rintro ⟨_, rest, rfl, isBelow⟩
      exact ⟨rest, isBelow⟩
    · rintro ⟨rest, isBelow⟩
      exact ⟨_, rest, rfl, isBelow⟩
  simp only [isWithin, Bool.or_eq_true, beq_iff_eq, below]

theorem isWithin_of_prefix (begins : outer <+: inner) (outerHolds : isWithin outer field)
    (innerHolds : isWithin inner field) : isWithin outer inner := by
  -- Of two paths that hold a field the one holds the other that it is the beginning of.
  obtain ⟨behind, isField⟩ := prefix_of_isWithin innerHolds
  obtain ⟨more, rfl⟩ := begins
  rw [isWithin_iff] at outerHolds ⊢
  cases more with
  | nil => exact .inl (List.append_nil outer)
  | cons c more =>
      -- Behind the outer path the field goes on as the inner path does, so with a dot.
      rw [List.append_assoc, List.cons_append] at isField
      rcases outerHolds with rfl | ⟨rest, isBelow⟩
      · simp at isField
      · obtain ⟨rfl, -⟩ := List.cons.inj (List.append_cancel_left (isField.trans isBelow))
        exact .inr ⟨more, rfl⟩

end Field

namespace Settings

variable {settings : Settings} {paths : List Text}

theorem pairwise_isWithin_scopesOf (settings : Settings) (field : Text) :
    (settings.scopesOf field).Pairwise fun outer inner => Field.isWithin outer inner := by
  have holds : ∀ path ∈ settings.scopesOf field, Field.isWithin path field := by
    intro path member
    exact (List.mem_filter.1 ((settings.scopesOf_perm field).mem_iff.1 member)).2
  refine (settings.pairwise_scopesOf field).imp_of_mem ?_
  intro outer inner outerMember innerMember begins
  exact Field.isWithin_of_prefix begins (holds outer outerMember) (holds inner innerMember)

/-- Two lists of scopes that hold the same paths are the same, since each is in the one order in
which a path begins with those before it. -/
theorem scopesOf_eq_of_perm (same : paths.Perm settings.nestedPaths) (field : Text) :
    { settings with nestedPaths := paths }.scopesOf field = settings.scopesOf field := by
  let reordered : Settings := { settings with nestedPaths := paths }
  have samePaths : (reordered.scopesOf field).Perm (settings.scopesOf field) :=
    ((reordered.scopesOf_perm field).trans (same.filter _)).trans
      (settings.scopesOf_perm field).symm
  refine samePaths.eq_of_pairwise ?_ (reordered.pairwise_scopesOf field)
    (settings.pairwise_scopesOf field)
  intro first second _ _ begins beginsToo
  exact begins.eq_of_length_le beginsToo.length_le

theorem nest_eq_of_perm (same : paths.Perm settings.nestedPaths) (field : Text) (clause : Clause) :
    { settings with nestedPaths := paths }.nest field clause = settings.nest field clause := by
  rw [nest_eq, nest_eq, scopesOf_eq_of_perm same]

theorem buildTerm_eq_of_perm (same : paths.Perm settings.nestedPaths) (field : Option Text)
    (kind : MatchKind) (raw : Text) :
    { settings with nestedPaths := paths }.buildTerm field kind raw =
      settings.buildTerm field kind raw := by
  cases field with
  | none =>
      simp only [buildTerm, buildDefault, nest_eq_of_perm same]
      rfl
  | some field =>
      simp only [buildTerm, buildFielded, nest_eq_of_perm same]
      rfl

end Settings

/-- A clause is put into all nested paths that hold its field, as often as they are listed, and into
nothing else; of any two of these scopes the outer holds the inner. The order in which the settings
list the paths makes no difference to a clause, nor to what is parsed from a query. -/
theorem nesting_is_canonical (settings : Settings) :
    (∀ field, ∃ scopes : List Text,
      (∀ clause, settings.nest field clause = scopes.foldr Clause.nested clause) ∧
      scopes.Perm (settings.nestedPaths.filter (Field.isWithin · field)) ∧
      scopes.Pairwise fun outer inner => Field.isWithin outer inner) ∧
    ∀ paths : List Text, paths.Perm settings.nestedPaths →
      (∀ field clause,
        { settings with nestedPaths := paths }.nest field clause = settings.nest field clause) ∧
      ∀ query, parse { settings with nestedPaths := paths } query = parse settings query := by
  refine ⟨?_, ?_⟩
  · intro field
    exact ⟨settings.scopesOf field, settings.nest_eq field, settings.scopesOf_perm field,
      settings.pairwise_isWithin_scopesOf field⟩
  · intro paths same
    have limit : { settings with nestedPaths := paths }.maxDepth = settings.maxDepth := rfl
    exact ⟨Settings.nest_eq_of_perm same,
      parseAt_eq_of_terms limit (Settings.buildTerm_eq_of_perm same) 0 0⟩

/-- The paths `a.b`, `a` and `a.b` in two orders. -/
theorem nesting_is_canonical_repeated :
    let paths : List Text := [['a', '.', 'b'], ['a'], ['a', '.', 'b']]
    let other : List Text := [['a'], ['a', '.', 'b'], ['a', '.', 'b']]
    let query : Text := ['(', 'a', '.', 'b', '.', 'c', ':', 'x', ')']
    other.Perm paths ∧
    parse { nestedPaths := other } query = parse { nestedPaths := paths } query ∧
    (parse { nestedPaths := paths } query).clauses.should =
      [.bool [] [] [.nested ['a'] (.nested ['a', '.', 'b'] (.nested ['a', '.', 'b']
        (.text ['a', '.', 'b', '.', 'c'] ['x'] false)))]] := by
  intro paths other query
  have same : other.Perm paths := by decide
  obtain ⟨-, parsed⟩ := (nesting_is_canonical { nestedPaths := paths }).2 other same
  exact ⟨same, parsed query, by decide +kernel⟩

end SearchQuery
