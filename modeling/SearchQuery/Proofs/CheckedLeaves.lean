import SearchQuery.Proofs.Effect
import SearchQuery.Proofs.Leaves

/-! # No value passes by its check

If a parse reports nothing, every leaf of its tree on a field with a check looks for a value
that the check gave. Terms report what is refused, a report is never taken back, and the
failure of a group is the failure of the text around it.
-/

namespace SearchQuery

namespace Settings

/-- Whether the value is one that the check of the field gave. Without a check every value
is. -/
def Accepts (settings : Settings) (field value : Text) : Prop :=
  ∀ check, settings.checks.find? field = some check → ∃ input, check input = .ok value

/-- Whether what the clause looks for is accepted, if the clause is a leaf. -/
def Admits (settings : Settings) (leaf : Clause) : Prop :=
  ∀ field value, leaf.baseField? = some field → leaf.value? = some value →
    settings.Accepts field value

theorem accepts_checkValue {settings : Settings} {field value : Text}
    (clean : (settings.checkValue field value).2 = []) :
    settings.Accepts field (settings.checkValue field value).1 := by
  intro check found
  simp only [checkValue, found] at clean ⊢
  cases checked : check value with
  | ok accepted => exact ⟨value, by simp only [checked]⟩
  | error reason => simp [checked] at clean

theorem admits_leaf {settings : Settings} {field value : Text} {kind : MatchKind} {quoted : Bool}
    (accepted : settings.Accepts field value) : settings.Admits (kind.leaf field value quoted) := by
  intro otherField otherValue sameField sameValue
  cases (kind.baseField?_leaf field value quoted).symm.trans sameField
  cases (kind.value?_leaf field value quoted).symm.trans sameValue
  exact accepted

theorem admits_of_mem_buildDefault {settings : Settings} {raw : Text}
    (clean : (settings.buildDefault raw).rejections = []) {leaf : Clause}
    (member : leaf ∈ (settings.buildDefault raw).clause.leaves) : settings.Admits leaf := by
  simp only [buildDefault, List.flatMap_map, List.flatMap_eq_nil_iff] at clean
  obtain ⟨field, isDefault, rfl⟩ := mem_leaves_buildDefault.1 member
  exact admits_leaf (accepts_checkValue (clean field isDefault))

theorem admits_of_mem_buildFielded {settings : Settings} {field raw : Text} {kind : MatchKind}
    (clean : (settings.buildFielded field kind raw).rejections = []) {leaf : Clause}
    (member : leaf ∈ (settings.buildFielded field kind raw).clause.leaves) :
    settings.Admits leaf := by
  obtain ⟨literal, leaves, rejections⟩ := settings.leaves_buildFielded field raw kind
  rw [leaves, List.mem_singleton] at member
  subst member
  exact admits_leaf (accepts_checkValue (rejections.symm.trans clean))

theorem admits_of_mem_buildTerm {settings : Settings} {field : Option Text} {kind : MatchKind}
    {raw : Text} (clean : (settings.buildTerm field kind raw).failure? = none) {leaf : Clause}
    (member : leaf ∈ (settings.buildTerm field kind raw).clause.leaves) :
    settings.Admits leaf := by
  simp only [BuiltTerm.failure?, Option.map_eq_none_iff, List.head?_eq_none_iff] at clean
  cases field with
  | none => exact admits_of_mem_buildDefault clean member
  | some field => exact admits_of_mem_buildFielded clean member

end Settings

/-- Whether all leaves are admitted, unless there is a failure. -/
def Parsed.Admitted (settings : Settings) (parsed : Parsed) : Prop :=
  parsed.failure = none → ∀ leaf ∈ parsed.clauses.leaves, settings.Admits leaf

namespace Parsed

variable {settings : Settings} {depth : Nat} {before after : Parsed}

theorem admitted_adding {occur : Occur} {clause : Clause} {failure : Option Failure}
    (admitted : before.Admitted settings)
    (added : failure = none → ∀ leaf ∈ clause.leaves, settings.Admits leaf) :
    (before.adding occur clause failure).Admitted settings := by
  intro clean leaf member
  simp only [adding, Option.orElse_eq_orElse, Option.orElse_eq_or, Option.or_eq_none_iff] at clean
  simp only [adding, Clauses.mem_leaves_add] at member
  rcases member with old | new
  · exact admitted clean.1 leaf old
  · exact added clean.2 leaf new

theorem admitted_of_effect
    (inside : depth < settings.maxDepth → ∀ first body,
      (parseAt settings (depth + 1) first body).Admitted settings)
    (admitted : before.Admitted settings) (effect : Effect settings depth before after) :
    after.Admitted settings := by
  cases effect with
  | pass passing => exact admitted
  | term isBuilt spanKind =>
      subst isBuilt
      apply admitted_adding
      · exact admitted
      · intro clean leaf member
        exact Settings.admits_of_mem_buildTerm clean member
  | group within isInner notFatal =>
      subst isInner
      apply admitted_adding
      · exact admitted
      · exact inside within _ _

theorem admitted_of_abort (abort : Abort settings depth before after) : after.Admitted settings := by
  intro clean
  cases abort <;> cases clean

end Parsed

theorem admitted_parseAt (settings : Settings) (depth base : Nat) (text : Text) :
    (parseAt settings depth base text).Admitted settings := by
  refine @parseAt_induction settings (fun _ _ _ parsed => parsed.Admitted settings) ?_
    depth base text
  intro depth base text inside
  refine @parseAt_of_effects settings depth base text (Parsed.Admitted settings)
    (Parsed.Admitted settings) ?_ ?_ ?_ ?_
  · intro _ leaf member
    cases member
  · intro before after admitted effect
    exact Parsed.admitted_of_effect inside admitted effect
  · intro parsed admitted
    exact admitted
  · intro before after _ abort
    exact Parsed.admitted_of_abort abort

/-- No leaf of a query that is reported as right passes by the check of its field. With a check
that refuses everything there is no leaf on the field. -/
theorem leaves_pass_checks (settings : Settings) (query : Text)
    (clean : (parse settings query).failure = none) (field : Text) (check : ValueCheck)
    (registered : settings.checks.find? field = some check) :
    (∀ leaf ∈ (parse settings query).clauses.leaves, leaf.baseField? = some field →
      ∃ input value, check input = .ok value ∧ leaf.value? = some value) ∧
    ((∀ input, ∃ reason, check input = .error reason) →
      ∀ leaf ∈ (parse settings query).clauses.leaves, leaf.baseField? ≠ some field) := by
  have passed : ∀ leaf ∈ (parse settings query).clauses.leaves, leaf.baseField? = some field →
      ∃ input value, check input = .ok value ∧ leaf.value? = some value := by
    intro leaf member onField
    obtain ⟨value, known⟩ := Clause.exists_value_of_baseField onField
    obtain ⟨input, ok⟩ := admitted_parseAt settings 0 0 query clean leaf member field value onField
      known check registered
    exact ⟨input, value, ok, known⟩
  refine ⟨passed, ?_⟩
  intro refuses leaf member onField
  obtain ⟨input, value, ok, -⟩ := passed leaf member onField
  obtain ⟨reason, refused⟩ := refuses input
  cases ok.symm.trans refused

/-- A check that gives another value than it gets, behind a sigil and in a group. -/
theorem leaves_pass_checks_in_group :
    let settings : Settings := Settings.withCheck { defaultFields := [['n']] } ['n'] fun value =>
      if value = ['5'] then .ok ['6'] else .error ['?']
    let query : Text := ['n', '=', '5', ' ', '(', '5', ')']
    (parse settings query).clauses.leaves =
      [.keyword (['n'] ++ Text.ofString ".keyword") ['6'], .text ['n'] ['6'] false] ∧
    ∀ leaf ∈ (parse settings query).clauses.leaves, leaf.baseField? = some ['n'] →
      ∃ input value, (if input = ['5'] then Except.ok ['6'] else .error ['?']) = Except.ok value ∧
        leaf.value? = some value := by
  intro settings query
  refine ⟨by decide +kernel, ?_⟩
  exact (leaves_pass_checks settings query (by decide +kernel) ['n'] _ rfl).1

end SearchQuery
