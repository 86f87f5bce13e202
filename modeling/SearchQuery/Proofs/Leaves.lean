import SearchQuery.Term

/-! # The leaves of a query tree

What a tree searches for is in its leaves. Scopes and aggregates only hold them, so every
operation that builds a tree has an account of the leaves that it adds.
-/

namespace SearchQuery

namespace Field

/-- A field by the name of its analysed form, if the name given is that of the other form. -/
def analysed (field : Text) : Text :=
  if Text.ofString ".keyword" <:+ field then
    field.take (field.length - (Text.ofString ".keyword").length)
  else field

@[simp] theorem analysed_append_keyword (field : Text) :
    analysed (field ++ Text.ofString ".keyword") = field := by
  simp [analysed, List.length_append]

end Field

namespace Clause

mutual

/-- The leaves of a clause, from left to right. -/
def leaves : Clause → List Clause
  | .nested _ inner => leaves inner
  | .bool must mustNot should => leavesOf must ++ leavesOf mustNot ++ leavesOf should
  | leaf => [leaf]

/-- The leaves of some clauses, from left to right. -/
def leavesOf : List Clause → List Clause
  | [] => []
  | clause :: clauses => leaves clause ++ leavesOf clauses

end

/-- What a leaf looks for. -/
def value? : Clause → Option Text
  | .text _ value _ => some value
  | .keyword _ value => some value
  | .range _ bound _ => some bound
  | .regex _ pattern => some pattern
  | .freeText query _ => some query
  | .nested _ _ => none
  | .bool _ _ _ => none

/-- The stored field that a leaf was made for. A keyword leaf names its other form. -/
def baseField? : Clause → Option Text
  | .keyword field _ => some (Field.analysed field)
  | clause => clause.field?

theorem exists_value_of_baseField {leaf : Clause} {field : Text}
    (onField : leaf.baseField? = some field) : ∃ value, leaf.value? = some value := by
  cases leaf with
  | text | keyword | range | regex | freeText => exact ⟨_, rfl⟩
  | nested | bool => cases onField

theorem leavesOf_append (clauses more : List Clause) :
    leavesOf (clauses ++ more) = leavesOf clauses ++ leavesOf more := by
  induction clauses with
  | nil => rfl
  | cons clause clauses ih => simp only [List.cons_append, leavesOf, ih, List.append_assoc]

theorem mem_leavesOf {leaf : Clause} {clauses : List Clause} :
    leaf ∈ leavesOf clauses ↔ ∃ clause ∈ clauses, leaf ∈ clause.leaves := by
  induction clauses with
  | nil => simp [leavesOf]
  | cons clause clauses ih => simp [leavesOf, ih]

end Clause

namespace Clauses

/-- The leaves of an aggregate. -/
def leaves (clauses : Clauses) : List Clause := clauses.toClause.leaves

theorem mem_leaves_add {leaf clause : Clause} {clauses : Clauses} {occur : Occur} :
    leaf ∈ (clauses.add occur clause).leaves ↔ leaf ∈ clauses.leaves ∨ leaf ∈ clause.leaves := by
  cases occur <;>
    simp only [leaves, add, toClause, Clause.leaves, Clause.leavesOf_append, Clause.leavesOf,
      List.append_nil, List.mem_append] <;>
    grind

end Clauses

theorem leaves_foldl_nested (paths : List Text) (clause : Clause) :
    (paths.foldl (fun inner path => Clause.nested path inner) clause).leaves = clause.leaves := by
  induction paths generalizing clause with
  | nil => rfl
  | cons path paths ih => simp only [List.foldl_cons, ih, Clause.leaves]

@[simp] theorem leaves_nest (settings : Settings) (field : Text) (clause : Clause) :
    (settings.nest field clause).leaves = clause.leaves := leaves_foldl_nested _ clause

namespace MatchKind

variable (kind : MatchKind) (field value : Text) (quoted : Bool)

theorem value?_leaf : (kind.leaf field value quoted).value? = some value := by
  cases kind with
  | auto | phrase => rfl
  | sigil sigil => cases sigil <;> rfl

theorem baseField?_leaf : (kind.leaf field value quoted).baseField? = some field := by
  cases kind with
  | auto | phrase => rfl
  | sigil sigil =>
      cases sigil with
      | keyword => exact congrArg some (Field.analysed_append_keyword field)
      | regex | above | below | freeText => rfl

theorem leaves_leaf : (kind.leaf field value quoted).leaves = [kind.leaf field value quoted] := by
  cases kind with
  | auto | phrase => rfl
  | sigil sigil => cases sigil <;> rfl

end MatchKind

namespace Settings

variable {settings : Settings} {field raw : Text} {kind : MatchKind} {leaf : Clause}

theorem mem_leaves_buildDefault : leaf ∈ (settings.buildDefault raw).clause.leaves ↔
    ∃ field ∈ settings.defaultFields, leaf = MatchKind.auto.leaf field
      (settings.checkValue field (Literal.ofRaw raw).value).1 (Literal.ofRaw raw).quoted := by
  simp only [buildDefault, Clauses.toClause, Clause.leaves, Clause.leavesOf, List.nil_append,
    List.map_map, Clause.mem_leavesOf, List.mem_map, Function.comp_apply]
  constructor
  · rintro ⟨_, ⟨field, isDefault, rfl⟩, member⟩
    rw [leaves_nest] at member
    exact ⟨field, isDefault, List.mem_singleton.1 member⟩
  · rintro ⟨field, isDefault, rfl⟩
    refine ⟨_, ⟨field, isDefault, rfl⟩, ?_⟩
    rw [leaves_nest]
    exact List.mem_singleton_self _

theorem leaves_buildFielded (settings : Settings) (field raw : Text) (kind : MatchKind) :
    ∃ literal : Literal, (settings.buildFielded field kind raw).clause.leaves =
      [kind.leaf (settings.storedField field)
        (settings.checkValue (settings.storedField field) literal.value).1 literal.quoted] ∧
      (settings.buildFielded field kind raw).rejections =
        (settings.checkValue (settings.storedField field) literal.value).2 := by
  refine ⟨if kind = .sigil .freeText then ⟨FreeText.ofRaw raw, false⟩ else Literal.ofRaw raw, ?_, rfl⟩
  simp only [buildFielded, leaves_nest, MatchKind.leaves_leaf]

end Settings

end SearchQuery
