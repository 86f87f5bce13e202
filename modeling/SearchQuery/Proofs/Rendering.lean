import SearchQuery.Elastic
import SearchQuery.Proofs.DocumentReader

/-! # Rendering loses nothing

Every kind of clause has its own name in its document, and an occurrence that is left out is one
without clauses, so a document comes from one clause only. The names in its objects ascend, so none
is there twice and nothing depends on their order. With what is read back from the texts of documents,
the text of a clause tells the clause in either layout.
-/

namespace SearchQuery

namespace Document

mutual

/-- Whether the names in every object of the document ascend. -/
def Ordered : Document → Prop
  | .string _ => True
  | .list items => AllOrdered items
  | .object members => (members.map Prod.fst).Pairwise (· < ·) ∧ MembersOrdered members

def AllOrdered : List Document → Prop
  | [] => True
  | item :: items => Ordered item ∧ AllOrdered items

def MembersOrdered : List (Text × Document) → Prop
  | [] => True
  | (_, value) :: members => Ordered value ∧ MembersOrdered members

end

theorem ordered_single {name : Text} {value : Document} (ordered : value.Ordered) :
    (single name value).Ordered := by
  simp [single, Ordered, MembersOrdered, ordered]

theorem allOrdered_strings (texts : List Text) : AllOrdered (texts.map .string) := by
  induction texts with
  | nil => trivial
  | cons text texts ih => exact ⟨trivial, ih⟩

theorem membersOrdered_append {members others : List (Text × Document)}
    (ordered : MembersOrdered members) (ordered' : MembersOrdered others) :
    MembersOrdered (members ++ others) := by
  induction members with
  | nil => exact ordered'
  | cons member members ih => exact ⟨ordered.1, ih ordered.2⟩

end Document

namespace Clause

open Document (single Ordered AllOrdered MembersOrdered ordered_single allOrdered_strings
  membersOrdered_append)

/-! ## Occurrences -/

theorem eq_of_mem_occurrence {name : String} {documents : List Document} {member : Text × Document}
    (isMember : member ∈ occurrence name documents) : member.1 = .ofString name := by
  cases documents with
  | nil => cases isMember
  | cons => rw [List.mem_singleton.1 isMember]

/-- Of the members of an aggregate the first tells the clauses that occur in its way, if its name is
not among the others. -/
theorem occurrence_append_inj {name : String} {documents documents' : List Document}
    {others others' : List (Text × Document)}
    (apart : ∀ member ∈ others, member.1 ≠ .ofString name)
    (apart' : ∀ member ∈ others', member.1 ≠ .ofString name) :
    occurrence name documents ++ others = occurrence name documents' ++ others' ↔
      documents = documents' ∧ others = others' := by
  cases documents with
  | nil =>
      cases documents' with
      | nil => simp [occurrence]
      | cons =>
          simp only [occurrence, List.nil_append, List.cons_append, reduceCtorEq, false_and, iff_false]
          rintro rfl
          exact apart _ List.mem_cons_self rfl
  | cons =>
      cases documents' with
      | nil =>
          simp only [occurrence, List.nil_append, List.cons_append, reduceCtorEq, false_and, iff_false]
          rintro rfl
          exact apart' _ List.mem_cons_self rfl
      | cons => simp [occurrence]

theorem occurrences_inj {must mustNot should must' mustNot' should' : List Document} :
    occurrence "must" must ++ occurrence "must_not" mustNot ++ occurrence "should" should =
      occurrence "must" must' ++ occurrence "must_not" mustNot' ++ occurrence "should" should' ↔
    must = must' ∧ mustNot = mustNot' ∧ should = should' := by
  have apart : ∀ {name other : String} {documents : List Document}, other ≠ name →
      ∀ member ∈ occurrence other documents, member.1 ≠ .ofString name := by
    intro name other documents differ member isMember
    rw [eq_of_mem_occurrence isMember, Ne, Text.ofString_inj]
    exact differ
  have apartMust : ∀ {mustNot should : List Document},
      ∀ member ∈ occurrence "must_not" mustNot ++ occurrence "should" should,
        member.1 ≠ .ofString "must" := by
    intro mustNot should member isMember
    rcases List.mem_append.1 isMember with isMember | isMember
    · exact apart (by decide) member isMember
    · exact apart (by decide) member isMember
  rw [List.append_assoc, List.append_assoc, occurrence_append_inj apartMust apartMust,
    occurrence_append_inj (apart (by decide)) (apart (by decide))]
  cases should <;> cases should' <;> simp [occurrence]

/-! ## The clause of a document -/

mutual

theorem toElastic_inj : ∀ first second : Clause, first.toElastic = second.toElastic ↔ first = second
  | .text _ _ phrase, second => by
      cases second with
      | text _ _ phrase' => cases phrase <;> cases phrase' <;> simp [toElastic, single]
      | _ => cases phrase <;> simp [toElastic, single]
  | .keyword _ _, second => by
      cases second with
      | text _ _ phrase => cases phrase <;> simp [toElastic, single]
      | _ => simp [toElastic, single]
  | .range _ _ side, second => by
      cases second with
      | text _ _ phrase => cases phrase <;> simp [toElastic, single]
      | range _ _ side' => cases side <;> cases side' <;> simp [toElastic, single]
      | _ => simp [toElastic, single]
  | .regex _ _, second => by
      cases second with
      | text _ _ phrase => cases phrase <;> simp [toElastic, single]
      | _ => simp [toElastic, single]
  | .freeText _ fields, second => by
      cases second with
      | text _ _ phrase => cases phrase <;> simp [toElastic, single]
      | freeText _ fields' =>
          have strings : fields.map Document.string = fields'.map Document.string ↔
              fields = fields' := List.map_inj_right fun _ _ => Document.string.inj
          simp [toElastic, single, strings, and_comm]
      | _ => simp [toElastic, single]
  | .nested _ inner, second => by
      cases second with
      | text _ _ phrase => cases phrase <;> simp [toElastic, single]
      | nested _ inner' => simp [toElastic, single, toElastic_inj inner inner']
      | _ => simp [toElastic, single]
  | .bool must mustNot should, second => by
      cases second with
      | text _ _ phrase => cases phrase <;> simp [toElastic, single]
      | bool must' mustNot' should' =>
          simp [toElastic, single, -List.append_assoc, occurrences_inj, allToElastic_inj must must',
            allToElastic_inj mustNot mustNot', allToElastic_inj should should']
      | _ => simp [toElastic, single]

theorem allToElastic_inj :
    ∀ first second : List Clause, allToElastic first = allToElastic second ↔ first = second
  | [], second => by cases second <;> simp [allToElastic]
  | clause :: clauses, second => by
      cases second with
      | nil => simp [allToElastic]
      | cons clause' clauses' =>
          simp [allToElastic, toElastic_inj clause clause', allToElastic_inj clauses clauses']

end

/-! ## The order of names -/

theorem membersOrdered_occurrence {name : String} {documents : List Document}
    (ordered : AllOrdered documents) : MembersOrdered (occurrence name documents) := by
  cases documents with
  | nil => trivial
  | cons => exact ⟨ordered, trivial⟩

theorem names_occurrence (name : String) (documents : List Document) :
    ((occurrence name documents).map Prod.fst).Sublist [.ofString name] := by
  cases documents with
  | nil => exact List.nil_sublist _
  | cons => exact List.Sublist.refl _

mutual

theorem ordered_toElastic : ∀ clause : Clause, clause.toElastic.Ordered
  | .text _ _ _ => ordered_single (ordered_single (ordered_single trivial))
  | .keyword _ _ => ordered_single (ordered_single trivial)
  | .range _ _ _ => ordered_single (ordered_single (ordered_single trivial))
  | .regex _ _ => ordered_single (ordered_single (ordered_single trivial))
  | .freeText _ fields => by
      have names : [Text.ofString "fields", .ofString "query"].Pairwise (· < ·) := by decide +kernel
      exact ordered_single ⟨names, allOrdered_strings fields, trivial, trivial⟩
  | .nested _ inner => by
      have names : [Text.ofString "path", .ofString "query"].Pairwise (· < ·) := by decide +kernel
      exact ordered_single ⟨names, trivial, ordered_toElastic inner, trivial⟩
  | .bool must mustNot should => by
      have names : [Text.ofString "must", .ofString "must_not", .ofString "should"].Pairwise
          (· < ·) := by decide +kernel
      refine ordered_single ⟨names.sublist ?_, ?_⟩
      · rw [List.map_append, List.map_append]
        exact ((names_occurrence ..).append (names_occurrence ..)).append (names_occurrence ..)
      · exact membersOrdered_append (membersOrdered_append
          (membersOrdered_occurrence (allOrdered_allToElastic must))
          (membersOrdered_occurrence (allOrdered_allToElastic mustNot)))
          (membersOrdered_occurrence (allOrdered_allToElastic should))

theorem allOrdered_allToElastic : ∀ clauses : List Clause, AllOrdered (allToElastic clauses)
  | [] => trivial
  | clause :: clauses => ⟨ordered_toElastic clause, allOrdered_allToElastic clauses⟩

end

end Clause

/-- A clause can be told from its document, and its document from the text in either layout. The
names in all objects of the document ascend, so it is the same document for a reader that does not
keep their order. Different clauses never have the same text, in one layout or in two. -/
theorem rendering_loses_nothing :
    Function.Injective Clause.toElastic ∧
    (∀ clause : Clause, clause.toElastic.Ordered) ∧
    (∀ clause : Clause, ∀ layout, Document.read (clause.render layout) = .ok clause.toElastic) ∧
    ∀ layout layout' : Layout, ∀ clause clause' : Clause, clause ≠ clause' →
      clause.render layout ≠ clause'.render layout' := by
  have injective : Function.Injective Clause.toElastic :=
    fun clause clause' same => (Clause.toElastic_inj clause clause').1 same
  refine ⟨injective, Clause.ordered_toElastic, ?_, ?_⟩
  · intro clause layout
    exact Document.read_write layout clause.toElastic
  · intro layout layout' clause clause' differ sameText
    exact differ (injective (Document.write_inj layout sameText))

end SearchQuery
