import SearchQuery.Proofs.DepthLimit
import SearchQuery.Proofs.Leaves
import SearchQuery.Proofs.NestedPaths

/-! # The scopes that leaves lie in

A tree that a parse gives is made of aggregates, and of leaves in the scopes of their fields.
`Clause.WellScoped` says so of all its parts, and the way down to a leaf is then known from the last
aggregate on: nothing but the scopes of its field is met, and each of them.
-/

namespace SearchQuery

namespace Clause

/-- The path that a clause scopes another to. -/
def scope? : Clause → Option Text
  | .nested path _ => some path
  | _ => none

/-- Whether a clause holds no others. -/
def isLeaf (clause : Clause) : Bool := clause.scope?.isNone && !clause.isAggregate

/-- A clause made of aggregates and of leaves in the scopes of their fields. -/
inductive WellScoped (settings : Settings) : Clause → Prop where
  | leaf {field : Text} {leaf : Clause} : leaf.baseField? = some field →
      WellScoped settings (settings.nest field leaf)
  | aggregate {clauses : Clauses} : (∀ clause ∈ clauses.all, clause.WellScoped settings) →
      WellScoped settings clauses.toClause

theorem isLeaf_of_baseField {leaf : Clause} {field : Text}
    (onField : leaf.baseField? = some field) : leaf.isLeaf := by
  cases leaf with
  | text | keyword | range | regex | freeText => rfl
  | nested | bool => cases onField

theorem head?_of_path {clause : Clause} {path : List Clause} (isPath : clause.Path path) :
    path.head? = some clause := by
  cases isPath <;> rfl

theorem path_eq_of_isLeaf {leaf : Clause} {path : List Clause} (isLeaf : leaf.isLeaf)
    (isPath : leaf.Path path) : path = [leaf] := by
  cases isPath with
  | here => rfl
  | nested | member => cases isLeaf

section

variable {scopes : List Text} {leaf : Clause} {path : List Clause}

theorem not_isAggregate_of_mem_scopes (isLeaf : leaf.isLeaf)
    (isPath : (scopes.foldr Clause.nested leaf).Path path) :
    ∀ clause ∈ path, clause.isAggregate = false := by
  induction scopes generalizing path with
  | nil =>
      rw [path_eq_of_isLeaf isLeaf isPath, List.forall_mem_singleton]
      simpa using (Bool.and_eq_true_iff.1 isLeaf).2
  | cons scope scopes ih =>
      cases isPath with
      | here => exact List.forall_mem_singleton.2 rfl
      | nested isPath => exact List.forall_mem_cons.2 ⟨rfl, ih isPath⟩

/-- On the way down to a leaf that was put into scopes each of them is met. -/
theorem map_scope?_of_scopes {last : Clause} (isLeaf : leaf.isLeaf) (isLast : last.isLeaf)
    (isPath : (scopes.foldr Clause.nested leaf).Path (path ++ [last])) :
    last = leaf ∧ path.map scope? = scopes.map some := by
  induction scopes generalizing path with
  | nil =>
      have only : path ++ [last] = [] ++ [leaf] := path_eq_of_isLeaf isLeaf isPath
      obtain ⟨rfl, same⟩ := List.append_inj' only rfl
      exact ⟨List.singleton_inj.1 same, rfl⟩
  | cons scope scopes ih =>
      generalize whole : path ++ [last] = way at isPath
      cases isPath with
      | here =>
          have only : path ++ [last] = [] ++ [Clause.nested scope _] := whole
          obtain ⟨-, same⟩ := List.append_inj' only rfl
          rw [List.singleton_inj.1 same] at isLast
          cases isLast
      | @nested _ _ below isPath =>
          rcases List.append_eq_cons_iff.1 whole with ⟨-, only⟩ | ⟨inner, rfl, rfl⟩
          · rw [(List.cons.inj only).1] at isLast
            cases isLast
          · obtain ⟨same, scopes⟩ := ih isPath
            exact ⟨same, congrArg (some scope :: ·) scopes⟩

end

end Clause

/-- Whether the clauses are the scopes of the field that the leaf is on, the outermost first. -/
def Settings.InScopes (settings : Settings) (scopes : List Clause) (leaf : Clause) : Prop :=
  ∃ field, leaf.baseField? = some field ∧
    scopes.map Clause.scope? = (settings.scopesOf field).map some

variable {settings : Settings}

theorem Settings.wellScoped_buildTerm (settings : Settings) (field : Option Text) (kind : MatchKind)
    (raw : Text) : (settings.buildTerm field kind raw).clause.WellScoped settings := by
  cases field with
  | none =>
      refine .aggregate ?_
      intro clause member
      simp only [Clauses.all, List.nil_append, List.map_map, List.mem_map] at member
      obtain ⟨name, -, rfl⟩ := member
      exact .leaf (MatchKind.auto.baseField?_leaf name _ _)
  | some field => exact .leaf (kind.baseField?_leaf _ _ _)

namespace Clause.WellScoped

variable {clause : Clause}

theorem inScopes (wellScoped : clause.WellScoped settings) {path : List Clause} {leaf : Clause}
    (isLeaf : leaf.isLeaf) (isPath : clause.Path (path ++ [leaf])) :
    settings.InScopes path leaf ∨ ∃ above aggregate scopes,
      path = above ++ aggregate :: scopes ∧ aggregate.isAggregate ∧
        settings.InScopes scopes leaf := by
  -- The way down to a leaf from the last aggregate on.
  induction wellScoped generalizing path with
  | @leaf field only onField =>
      rw [Settings.nest_eq] at isPath
      obtain ⟨rfl, scopes⟩ := map_scope?_of_scopes (isLeaf_of_baseField onField) isLeaf isPath
      exact .inl ⟨field, onField, scopes⟩
  | @aggregate clauses _ ih =>
      right
      generalize whole : path ++ [leaf] = way at isPath
      cases isPath with
      | here =>
          have only : path ++ [leaf] = [] ++ [clauses.toClause] := whole
          obtain ⟨-, same⟩ := List.append_inj' only rfl
          rw [List.singleton_inj.1 same] at isLeaf
          cases isLeaf
      | @member _ _ _ below clause isMember isPath =>
          rcases List.append_eq_cons_iff.1 whole with ⟨-, only⟩ | ⟨inner, rfl, rfl⟩
          · rw [(List.cons.inj only).1] at isLeaf
            cases isLeaf
          · rcases ih clause isMember isPath with inScopes | ⟨above, aggregate, scopes, rfl, found⟩
            · exact ⟨[], _, inner, rfl, rfl, inScopes⟩
            · exact ⟨_ :: above, aggregate, scopes, rfl, found⟩

theorem not_isAggregate_below (wellScoped : clause.WellScoped settings) {above below : List Clause}
    {scope : Text} {inner : Clause} (isPath : clause.Path (above ++ .nested scope inner :: below)) :
    ∀ clause ∈ below, clause.isAggregate = false := by
  induction wellScoped generalizing above with
  | leaf onField =>
      rw [Settings.nest_eq] at isPath
      have none := not_isAggregate_of_mem_scopes (isLeaf_of_baseField onField) isPath
      exact fun clause member => none clause (by simp [member])
  | @aggregate clauses _ ih =>
      generalize whole : above ++ Clause.nested scope inner :: below = way at isPath
      cases isPath with
      | here =>
          cases above with
          | nil => cases whole
          | cons _ above => simp at whole
      | @member _ _ _ way clause isMember isPath =>
          cases above with
          | nil => cases whole
          | cons _ above =>
              obtain ⟨-, rfl⟩ := List.cons.inj whole
              exact ih clause isMember isPath

end Clause.WellScoped

/-- Whether all clauses are made of aggregates and of leaves in the scopes of their fields. -/
def Parsed.WellScoped (settings : Settings) (parsed : Parsed) : Prop :=
  ∀ clause ∈ parsed.clauses.all, clause.WellScoped settings

theorem Parsed.wellScoped_of_effect {depth : Nat} {before after : Parsed}
    (inside : depth < settings.maxDepth → ∀ first body,
      (parseAt settings (depth + 1) first body).WellScoped settings)
    (wellScoped : before.WellScoped settings) (effect : Effect settings depth before after) :
    after.WellScoped settings := by
  have adding : ∀ {occur clause}, Clause.WellScoped settings clause →
      ∀ other ∈ (before.clauses.add occur clause).all, other.WellScoped settings := by
    intro occur clause added other member
    rcases Clauses.mem_all_add.1 member with old | rfl
    · exact wellScoped other old
    · exact added
  cases effect with
  | pass => exact wellScoped
  | @term _ field kind _ span _ isBuilt =>
      subst isBuilt
      exact adding (settings.wellScoped_buildTerm field kind span.trim)
  | group within isInner =>
      subst isInner
      exact adding (.aggregate (inside within _ _))

theorem wellScoped_parseAt (settings : Settings) (depth base : Nat) (text : Text) :
    (parseAt settings depth base text).WellScoped settings := by
  refine @parseAt_induction settings (fun _ _ _ parsed => parsed.WellScoped settings) ?_
    depth base text
  intro depth base text inside
  refine @parseAt_of_effects settings depth base text (Parsed.WellScoped settings)
    (Parsed.WellScoped settings) nofun ?_ (fun _ wellScoped => wellScoped) ?_
  · intro before after wellScoped effect
    exact Parsed.wellScoped_of_effect inside wellScoped effect
  · intro before after wellScoped abort
    cases abort <;> exact wellScoped

/-- On the way down to a leaf, whatever the parse came to, the last aggregate is followed by the
scopes of the field of the leaf and by nothing else. These are all nested paths that hold the
field, as often as they are listed, and none is followed by a shorter one. There is no aggregate
in a scope. -/
theorem leaves_in_scopes (settings : Settings) (query : Text) :
    let root := (parse settings query).clauses.toClause
    (∀ path leaf, root.Path (path ++ [leaf]) → leaf.isLeaf →
      ∃ (above : List Clause) (aggregate : Clause) (scopes : List Clause) (field : Text)
        (paths : List Text), path = above ++ aggregate :: scopes ∧
        aggregate.isAggregate ∧ leaf.baseField? = some field ∧
        scopes.map Clause.scope? = paths.map some ∧
        paths.Perm (settings.nestedPaths.filter (Field.isWithin · field)) ∧
        paths.Pairwise fun outer inner => Text.byteSize outer ≤ Text.byteSize inner) ∧
    ∀ above scope inner below, root.Path (above ++ .nested scope inner :: below) →
      ∀ clause ∈ below, clause.isAggregate = false := by
  intro root
  have wellScoped : root.WellScoped settings := .aggregate (wellScoped_parseAt settings 0 0 query)
  refine ⟨?_, fun _ _ _ _ isPath => wellScoped.not_isAggregate_below isPath⟩
  intro path leaf isPath isLeaf
  obtain ⟨above, aggregate, scopes, isPath, isAggregate, field, onField, isScopes⟩ :
      ∃ above aggregate scopes, path = above ++ aggregate :: scopes ∧ aggregate.isAggregate ∧
        settings.InScopes scopes leaf := by
    refine (wellScoped.inScopes isLeaf isPath).resolve_left ?_
    -- The root is an aggregate, and none is among the scopes.
    rintro ⟨field, onField, isScopes⟩
    have begins := Clause.head?_of_path isPath
    cases path with
    | nil =>
        cases begins
        cases isLeaf
    | cons first path =>
        cases begins
        have isScope : root.scope? ∈ (settings.scopesOf field).map some :=
          isScopes ▸ List.mem_cons_self
        obtain ⟨scope, -, absent⟩ := List.mem_map.1 isScope
        cases absent
  refine ⟨above, aggregate, scopes, field, settings.scopesOf field, isPath, isAggregate, onField,
    isScopes, settings.scopesOf_perm field, ?_⟩
  exact (settings.pairwise_scopesOf field).imp Text.byteSize_le_of_prefix

/-- Of the paths `a`, `a.b`, `a` and `b` all but the last hold the field of `a.b:=x`. -/
example :
    let settings : Settings := { nestedPaths := [['a'], ['a', '.', 'b'], ['a'], ['b']] }
    (parse settings ['a', '.', 'b', ':', '=', 'x']).clauses.should =
      [.nested ['a'] (.nested ['a'] (.nested ['a', '.', 'b']
        (.keyword (['a', '.', 'b'] ++ Text.ofString ".keyword") ['x'])))] := by decide +kernel

end SearchQuery
