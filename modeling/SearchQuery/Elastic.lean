import SearchQuery.Clause
import SearchQuery.Document

/-! # Queries as Elasticsearch documents

Every kind of clause has its own form in the query language of the search engine. The
members of an object are always written in ascending order of their names, so equal
queries have equal documents.
-/

namespace SearchQuery

namespace Document

/-- An object with a single member. -/
def single (name : Text) (value : Document) : Document := .object [(name, value)]

end Document

namespace Clause

open Document (single)

/-- The member of an aggregate for the clauses that occur in one way; it is left out when
there are none. -/
def occurrence (name : String) : List Document → List (Text × Document)
  | [] => []
  | clause :: clauses => [(.ofString name, .list (clause :: clauses))]

mutual

/-- The document of a clause. -/
def toElastic : Clause → Document
  | .text field value phrase =>
    single (if phrase then .ofString "match_phrase" else .ofString "match")
      (single field (single (.ofString "query") (.string value)))
  | .keyword field value => single (.ofString "term") (single field (.string value))
  | .range field bound side =>
    let comparison := match side with
      | .above => .ofString "gt"
      | .below => .ofString "lt"
    single (.ofString "range") (single field (single comparison (.string bound)))
  | .regex field pattern =>
    single (.ofString "regexp") (single field (single (.ofString "value") (.string pattern)))
  | .freeText query fields =>
    single (.ofString "simple_query_string")
      (.object [(.ofString "fields", .list (fields.map .string)),
        (.ofString "query", .string query)])
  | .nested path inner =>
    single (.ofString "nested")
      (.object [(.ofString "path", .string path), (.ofString "query", toElastic inner)])
  | .bool must mustNot should =>
    single (.ofString "bool") (.object (occurrence "must" (allToElastic must) ++
      occurrence "must_not" (allToElastic mustNot) ++ occurrence "should" (allToElastic should)))

/-- The documents of clauses, in their order. -/
def allToElastic : List Clause → List Document
  | [] => []
  | clause :: clauses => toElastic clause :: allToElastic clauses

end

/-- The text of the document of a clause. -/
def render (layout : Layout) (clause : Clause) : Text := clause.toElastic.write layout

end Clause

end SearchQuery
