import SearchQuery.Text

/-! # Query trees

A query is a tree of clauses. Leaves match a value against a field; `nested` scopes a
clause to the documents under a path; `bool` joins clauses that must match, must not
match, or should match. The tree knows nothing of the language it is rendered in.
-/

namespace SearchQuery

/-- How a clause takes part in the aggregate that holds it. -/
inductive Occur where
  | should
  | must
  | mustNot
  deriving Repr, DecidableEq, Inhabited

/-- What a sigil before a value asks for. -/
inductive Sigil where
  /-- An exact match, on the unanalysed form of the field. -/
  | keyword
  | regex
  | above
  | below
  /-- A free text query that is kept to the field. -/
  | freeText
  deriving Repr, DecidableEq, Inhabited

/-- The sigil that a character is, if it is one. -/
def Sigil.ofChar? : Char → Option Sigil
  | '=' => some .keyword
  | '~' => some .regex
  | '>' => some .above
  | '<' => some .below
  | '(' => some .freeText
  | _ => none

/-- How the value of a fielded term is to be matched. -/
inductive MatchKind where
  /-- As a phrase when the value is quoted, word by word otherwise. -/
  | auto
  | phrase
  | sigil (sigil : Sigil)
  deriving Repr, DecidableEq, Inhabited

/-- The side of its bound on which a range lies; the bound itself is outside. -/
inductive Side where
  | above
  | below
  deriving Repr, DecidableEq, Inhabited

inductive Clause where
  | text (field value : Text) (phrase : Bool)
  | keyword (field value : Text)
  | range (field bound : Text) (side : Side)
  | regex (field pattern : Text)
  | freeText (query : Text) (fields : List Text)
  | nested (path : Text) (inner : Clause)
  | bool (must mustNot should : List Clause)
  deriving Repr, Inhabited

namespace Clause

mutual

def same : Clause → Clause → Bool
  | .text field value phrase, .text field' value' phrase' =>
    field == field' && value == value' && phrase == phrase'
  | .keyword field value, .keyword field' value' => field == field' && value == value'
  | .range field bound side, .range field' bound' side' =>
    field == field' && bound == bound' && side == side'
  | .regex field pattern, .regex field' pattern' => field == field' && pattern == pattern'
  | .freeText query fields, .freeText query' fields' => query == query' && fields == fields'
  | .nested path inner, .nested path' inner' => path == path' && same inner inner'
  | .bool must mustNot should, .bool must' mustNot' should' =>
    allSame must must' && allSame mustNot mustNot' && allSame should should'
  | _, _ => false

def allSame : List Clause → List Clause → Bool
  | [], [] => true
  | clause :: clauses, clause' :: clauses' => same clause clause' && allSame clauses clauses'
  | _, _ => false

end

mutual

theorem same_iff : ∀ first second : Clause, same first second = true ↔ first = second
  | .text _ _ _, second => by cases second <;> simp [same, and_assoc]
  | .keyword _ _, second => by cases second <;> simp [same]
  | .range _ _ _, second => by cases second <;> simp [same, and_assoc]
  | .regex _ _, second => by cases second <;> simp [same]
  | .freeText _ _, second => by cases second <;> simp [same]
  | .nested _ inner, second => by cases second <;> simp [same, same_iff inner]
  | .bool must mustNot should, second => by
    cases second <;>
      simp [same, allSame_iff must, allSame_iff mustNot, allSame_iff should, and_assoc]

theorem allSame_iff : ∀ first second : List Clause, allSame first second = true ↔ first = second
  | [], second => by cases second <;> simp [allSame]
  | clause :: clauses, second => by
    cases second <;> simp [allSame, same_iff clause, allSame_iff clauses]

end

instance : DecidableEq Clause := fun first second => decidable_of_iff _ (same_iff first second)

end Clause

/-- The clauses of an aggregate, by the way in which they occur and in order. -/
structure Clauses where
  must : List Clause := []
  mustNot : List Clause := []
  should : List Clause := []
  deriving Repr, DecidableEq, Inhabited

namespace Clauses

def toClause (clauses : Clauses) : Clause :=
  .bool clauses.must clauses.mustNot clauses.should

/-- Puts a clause behind the others that occur in the same way. -/
def add (clauses : Clauses) (occur : Occur) (clause : Clause) : Clauses :=
  match occur with
  | .must => { clauses with must := clauses.must ++ [clause] }
  | .mustNot => { clauses with mustNot := clauses.mustNot ++ [clause] }
  | .should => { clauses with should := clauses.should ++ [clause] }

/-- The clauses of two aggregates, those of the first before those of the second. -/
def append (first second : Clauses) : Clauses where
  must := first.must ++ second.must
  mustNot := first.mustNot ++ second.mustNot
  should := first.should ++ second.should

@[simp] theorem append_add (first second : Clauses) (occur : Occur) (clause : Clause) :
    first.append (second.add occur clause) = (first.append second).add occur clause := by
  cases occur <;> simp [append, add]

@[simp] theorem append_empty (clauses : Clauses) : clauses.append {} = clauses := by
  simp [append]

def size (clauses : Clauses) : Nat :=
  clauses.must.length + clauses.mustNot.length + clauses.should.length

def isEmpty (clauses : Clauses) : Bool :=
  clauses.must.isEmpty && clauses.mustNot.isEmpty && clauses.should.isEmpty

end Clauses

namespace Clause

/-- The field that a leaf is matched against: of several the first, and of a clause that
holds other clauses none. -/
def field? : Clause → Option Text
  | .text field _ _ => some field
  | .keyword field _ => some field
  | .range field _ _ => some field
  | .regex field _ => some field
  | .freeText _ fields => fields.head?
  | .nested _ _ => none
  | .bool _ _ _ => none

def aggregate? : Clause → Option Clauses
  | .bool must mustNot should => some ⟨must, mustNot, should⟩
  | _ => none

end Clause

end SearchQuery
