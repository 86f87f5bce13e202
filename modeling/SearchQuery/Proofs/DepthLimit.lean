import SearchQuery.Proofs.GroupEvents

/-! # The limit bounds every parse

Groups that lie too deep are opened and never entered, and the parse ends with them. So no text
is read beyond the limit and no tree becomes deeper than it, whether the parse succeeds or not:
besides the groups, a path down the tree meets the root and the choice between default fields.
-/

namespace SearchQuery

namespace Clause

/-- A way down a tree from its root: the clauses on it, the root first. -/
inductive Path : Clause → List Clause → Prop where
  | here (clause : Clause) : Path clause [clause]
  | nested {scope : Text} {inner : Clause} {path : List Clause} :
      Path inner path → Path (.nested scope inner) (.nested scope inner :: path)
  | member {must mustNot should path : List Clause} {clause : Clause} :
      clause ∈ must ++ mustNot ++ should → Path clause path →
      Path (.bool must mustNot should) (.bool must mustNot should :: path)

def isAggregate (clause : Clause) : Bool := clause.aggregate?.isSome

/-- Whether no way down the tree meets more aggregates than that. -/
def AggregatesWithin (bound : Nat) (clause : Clause) : Prop :=
  ∀ path, clause.Path path → path.countP isAggregate ≤ bound

variable {bound : Nat} {clause : Clause}

theorem aggregatesWithin_of_le {larger : Nat} (within : clause.AggregatesWithin bound)
    (le : bound ≤ larger) : clause.AggregatesWithin larger :=
  fun path isPath => Nat.le_trans (within path isPath) le

theorem aggregatesWithin_nested {scope : Text} (within : clause.AggregatesWithin bound) :
    (Clause.nested scope clause).AggregatesWithin bound := by
  intro path isPath
  cases isPath with
  | here => exact Nat.zero_le _
  | nested isPath =>
      rw [List.countP_cons_of_neg (by simp [isAggregate, aggregate?])]
      exact within _ isPath

theorem aggregatesWithin_nest {settings : Settings} {field : Text}
    (within : clause.AggregatesWithin bound) :
    (settings.nest field clause).AggregatesWithin bound := by
  rw [Settings.nest]
  generalize Field.sortByLength _ = paths
  induction paths generalizing clause with
  | nil => exact within
  | cons path paths ih => exact ih (aggregatesWithin_nested within)

theorem aggregatesWithin_leaf (kind : MatchKind) (field value : Text) (quoted : Bool) :
    (kind.leaf field value quoted).AggregatesWithin bound := by
  intro path isPath
  cases kind with
  | auto | phrase =>
      cases isPath
      exact Nat.zero_le bound
  | sigil sigil =>
      cases sigil <;>
        · cases isPath
          exact Nat.zero_le bound

end Clause

namespace Clauses

/-- The clauses of an aggregate in whatever way they occur. -/
def all (clauses : Clauses) : List Clause := clauses.must ++ clauses.mustNot ++ clauses.should

theorem mem_all_add {clauses : Clauses} {occur : Occur} {clause other : Clause} :
    other ∈ (clauses.add occur clause).all ↔ other ∈ clauses.all ∨ other = clause := by
  cases occur <;>
    simp only [all, add, List.mem_append, List.mem_singleton] <;> grind

theorem aggregatesWithin_toClause {clauses : Clauses} {bound : Nat}
    (within : ∀ clause ∈ clauses.all, clause.AggregatesWithin bound) :
    clauses.toClause.AggregatesWithin (bound + 1) := by
  intro path isPath
  cases isPath with
  | here => exact Nat.succ_le_succ (Nat.zero_le _)
  | @member _ _ _ path clause member isPath =>
      have below := within clause member path isPath
      rw [List.countP_cons_of_pos rfl]
      omega

end Clauses

theorem Settings.aggregatesWithin_buildTerm (settings : Settings) (field : Option Text)
    (kind : MatchKind) (raw : Text) :
    (settings.buildTerm field kind raw).clause.AggregatesWithin 1 := by
  cases field with
  | none =>
      refine Clauses.aggregatesWithin_toClause ?_
      intro clause member
      simp only [Clauses.all, List.nil_append, List.map_map, List.mem_map] at member
      obtain ⟨name, -, rfl⟩ := member
      exact Clause.aggregatesWithin_nest (Clause.aggregatesWithin_leaf .auto _ _ _)
  | some field =>
      exact Clause.aggregatesWithin_nest (Clause.aggregatesWithin_leaf kind _ _ _)

namespace Clauses

/-- Whether the clauses go no deeper than the levels that are left allow. -/
def Shallow (levels : Nat) (clauses : Clauses) : Prop :=
  ∀ clause ∈ clauses.all, clause.AggregatesWithin (levels + 1)

variable {clauses : Clauses} {levels : Nat}

theorem Shallow.add (shallow : clauses.Shallow levels) {occur : Occur} {clause : Clause}
    (within : clause.AggregatesWithin (levels + 1)) :
    (clauses.add occur clause).Shallow levels := by
  intro other member
  rcases mem_all_add.1 member with old | rfl
  · exact shallow other old
  · exact within

theorem Shallow.toClause (shallow : clauses.Shallow levels) :
    clauses.toClause.AggregatesWithin (levels + 2) :=
  aggregatesWithin_toClause shallow

theorem shallow_of_effect {settings : Settings} {depth : Nat} {before after : Parsed}
    (inside : depth < settings.maxDepth → ∀ first body,
      (parseAt settings (depth + 1) first body).clauses.Shallow (settings.maxDepth - (depth + 1)))
    (shallow : before.clauses.Shallow (settings.maxDepth - depth))
    (effect : Effect settings depth before after) :
    after.clauses.Shallow (settings.maxDepth - depth) := by
  cases effect with
  | pass => exact shallow
  | @term _ field kind _ span _ isBuilt =>
      subst isBuilt
      have built := settings.aggregatesWithin_buildTerm field kind span.trim
      exact shallow.add (Clause.aggregatesWithin_of_le built (by omega))
  | @group occur first body inner within isInner =>
      subst isInner
      have group := (inside within first body).toClause
      exact shallow.add (Clause.aggregatesWithin_of_le group (by omega))

end Clauses

theorem shallow_parseAt (settings : Settings) (depth base : Nat) (text : Text) :
    (parseAt settings depth base text).clauses.Shallow (settings.maxDepth - depth) := by
  refine @parseAt_induction settings
    (fun depth _ _ parsed => parsed.clauses.Shallow (settings.maxDepth - depth)) ?_ depth base text
  intro depth base text inside
  refine @parseAt_of_effects settings depth base text
    (fun parsed => parsed.clauses.Shallow (settings.maxDepth - depth))
    (fun parsed => parsed.clauses.Shallow (settings.maxDepth - depth))
    nofun ?_ (fun _ shallow => shallow) ?_
  · intro before after shallow effect
    exact Clauses.shallow_of_effect (fun allowed first body => inside allowed first body) shallow
      effect
  · intro before after shallow abort
    cases abort <;> exact shallow

/-- No group deeper than the limit is entered, and none is opened more than one level deeper. If
one is opened there, nothing is read after it: the parse ends, with the limit if the parenthesis
is closed in the text it lies in and with the parenthesis if it is not. Only so the limit is
reported. And whatever the parse comes to, no way down its tree meets more aggregates than the
limit allows groups and two. -/
theorem limit_bounds_parse (settings : Settings) (query : Text) :
    let parsed := parse settings query
    (∀ body level, .groupEntered body level ∈ parsed.events → level ≤ settings.maxDepth) ∧
    (∀ offset level, .groupOpened offset level ∈ parsed.events → level ≤ settings.maxDepth + 1) ∧
    (∀ offset, .groupOpened offset (settings.maxDepth + 1) ∈ parsed.events →
      ∃ earlier after fatal count,
        parsed.events = earlier ++ .groupOpened offset (settings.maxDepth + 1) ::
          List.replicate (count + 1) (.aborted fatal) ∧
        parsed.failure = some fatal ∧
        GroupTail 0 0 query earlier offset (settings.maxDepth + 1) after ∧
        fatal = if (GroupText.close? after).isSome then .nestedTooDeep settings.maxDepth
          else .unclosedGroup offset) ∧
    (∀ limit, parsed.failure = some (.nestedTooDeep limit) → limit = settings.maxDepth ∧
      ∃ earlier offset after later,
        parsed.events = earlier ++ .groupOpened offset (settings.maxDepth + 1) :: later ∧
        GroupTail 0 0 query earlier offset (settings.maxDepth + 1) after ∧
        (GroupText.close? after).isSome) ∧
    ∀ path, parsed.clauses.toClause.Path path →
      path.countP Clause.isAggregate ≤ settings.maxDepth + 2 := by
  intro parsed
  have history : History settings 0 0 query parsed.events parsed.fatal? :=
    history_parseAt settings 0 0 query
  have located := history.located (Text.partOf_self query) (Nat.zero_le _)
  refine ⟨?_, ?_, ?_, ?_, ?_⟩
  · intro body level entered
    exact located _ entered
  · intro offset level opened
    exact (located _ opened).2
  · intro offset opened
    obtain ⟨fatal, failed⟩ : ∃ fatal, parsed.fatal? = some fatal := by
      rw [← Option.ne_none_iff_exists']
      intro unbroken
      have := history.level_le unbroken opened
      omega
    obtain ⟨earlier, last, level, after, count, events, levels, tail, fault⟩ :=
      history.ended (Nat.zero_le _) failed
    obtain ⟨rfl, rfl⟩ : last = offset ∧ level = settings.maxDepth + 1 := by
      rw [events] at opened
      simp only [List.mem_append, List.mem_cons, Event.groupOpened.injEq, List.mem_replicate,
        reduceCtorEq, and_false, or_false] at opened
      rcases opened with early | ⟨rfl, rfl⟩
      · have := levels _ _ early
        omega
      · exact ⟨rfl, rfl⟩
    refine ⟨earlier, after, fatal, count, events, (fatal?_eq_some_iff.1 failed).1, tail, ?_⟩
    cases fault with
    | unclosed notClosed => simp [notClosed]
    | tooDeep closed => rw [if_pos closed]
  · intro limit failed
    obtain ⟨earlier, offset, level, after, count, events, -, tail, fault⟩ :=
      history.ended (Nat.zero_le _) (fatal?_eq_some_iff.2 ⟨failed, rfl⟩)
    cases fault with
    | tooDeep closed isLevel =>
        subst isLevel
        exact ⟨rfl, earlier, offset, after, _, events, tail, closed⟩
  · exact (shallow_parseAt settings 0 0 query).toClause

end SearchQuery
