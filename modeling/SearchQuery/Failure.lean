import SearchQuery.Text

/-! # What can be wrong with a query

A query is wrong in its shape, which ends the reading, or it holds a value that a field
refuses, which is reported while reading goes on.
-/

namespace SearchQuery

/-- A value that the check of its field refused. -/
structure Rejection where
  field : Text
  value : Text
  reason : Text
  deriving Repr, DecidableEq

/-- What is reported about a query that cannot be used. -/
inductive Failure where
  /-- The parenthesis at this byte of the query is never closed. -/
  | unclosedGroup (offset : Nat)
  /-- Groups lie in each other more than this many levels deep. -/
  | nestedTooDeep (limit : Nat)
  | rejected (rejection : Rejection)
  deriving Repr, DecidableEq

namespace Failure

/-- Whether the failure ends the reading of the query. -/
def isFatal : Failure → Bool
  | .unclosedGroup _ => true
  | .nestedTooDeep _ => true
  | .rejected _ => false

/-- The failure in words. -/
def message : Failure → Text
  | .unclosedGroup offset => .ofString "unclosed ( opened at byte " ++ Text.ofNat offset
  | .nestedTooDeep limit =>
    .ofString "groups nested deeper than " ++ Text.ofNat limit ++ .ofString " levels"
  | .rejected rejection =>
    .ofString "field error " ++ rejection.field ++ .ofString " : " ++ rejection.value ++
      .ofString " (" ++ rejection.reason ++ .ofString ")"

end Failure

end SearchQuery
