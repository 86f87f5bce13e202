import SearchQuery.Clause
import SearchQuery.Failure

/-! # The trace of a parse

A parse leaves a record of what it did, in the order in which it did it. Every entry holds
the depth of the text that was being read, so the entries of one text can be told from
those of the groups inside it.
-/

namespace SearchQuery

/-- What a stretch of the query was read as. -/
inductive SpanKind where
  | term
  | field
  | fieldValue
  | must
  | mustNot
  | blank
  | groupOpen
  | groupClose
  | sigil (sigil : Sigil)
  deriving Repr, DecidableEq

/-- One thing that happened during a parse. -/
inductive Event where
  /-- The text since the previous span was read. -/
  | read (kind : SpanKind) (span : Text)
  /-- A group begins at the byte of the whole query, at the depth of its clauses. -/
  | groupOpened (offset depth : Nat)
  /-- The text between the parentheses of a group is about to be parsed. -/
  | groupEntered (body : Text) (depth : Nat)
  | aborted (failure : Failure)
  /-- A value was refused; reading goes on. -/
  | rejected (rejection : Rejection)
  deriving Repr, DecidableEq

/-- An event, with the depth of the text in which it happened. -/
structure Entry where
  depth : Nat
  event : Event
  deriving Repr, DecidableEq

end SearchQuery
