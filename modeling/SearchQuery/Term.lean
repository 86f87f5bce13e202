import SearchQuery.Field
import SearchQuery.Failure
import SearchQuery.Text.Blank
import SearchQuery.Text.Quoted

/-! # Terms

A term is a value with or without a field. With a field it becomes one leaf of the kind
that its sigil asked for; without one it becomes an aggregate that tries the value on every
default field. Either way the value passes the check of each field it is matched against,
and a value that is refused stays in the tree and is reported.
-/

namespace SearchQuery

/-- The clause of a term, and the values of it that were refused, in order. -/
structure BuiltTerm where
  clause : Clause
  rejections : List Rejection := []
  deriving Repr, DecidableEq

/-- What is reported about a term: the first value that was refused. -/
def BuiltTerm.failure? (built : BuiltTerm) : Option Failure :=
  built.rejections.head?.map Failure.rejected

/-- The value that the text of a term stands for. -/
structure Literal where
  value : Text
  quoted : Bool
  deriving Repr, DecidableEq

namespace Literal

/-- A text that is a quoted literal stands for what it quotes, every other for itself. -/
def ofRaw (raw : Text) : Literal :=
  match Text.unquote? raw with
  | some value => ⟨value, true⟩
  | none => ⟨raw, false⟩

end Literal

namespace FreeText

/-- Cuts a text at the parenthesis that closes one more than `depth` open ones. Whatever
follows a backslash is passed over. -/
def splitAtClosing? : (depth : Nat) → Text → Option (Text × Text)
  | _, [] => none
  | _, ['\\'] => none
  | depth, '\\' :: c :: rest =>
    (splitAtClosing? depth rest).map fun cut => ('\\' :: c :: cut.1, cut.2)
  | depth, '(' :: rest => (splitAtClosing? (depth + 1) rest).map fun cut => ('(' :: cut.1, cut.2)
  | 0, ')' :: rest => some ([], rest)
  | depth + 1, ')' :: rest => (splitAtClosing? depth rest).map fun cut => (')' :: cut.1, cut.2)
  | depth, c :: rest => (splitAtClosing? depth rest).map fun cut => (c :: cut.1, cut.2)

/-- The query of a parenthesised literal. The parentheses are taken off when the last
character closes the first; a literal that is never closed loses only the opening one, and
with text behind the closing one the whole is the query. -/
def ofRaw : Text → Text
  | '(' :: inner =>
    match splitAtClosing? 0 inner with
    | some (body, []) => Text.trim body
    | some (_, _ :: _) => '(' :: inner
    | none => Text.trim inner
  | raw => raw

end FreeText

/-- The leaf that matches a value against a stored field. -/
def MatchKind.leaf (kind : MatchKind) (field value : Text) (quoted : Bool) : Clause :=
  match kind with
  | .auto => .text field value quoted
  | .phrase => .text field value true
  | .sigil .keyword => .keyword (field ++ Text.ofString ".keyword") value
  | .sigil .regex => .regex field value
  | .sigil .above => .range field value .above
  | .sigil .below => .range field value .below
  | .sigil .freeText => .freeText value [field]

namespace Settings

/-- Puts a value through the check of a stored field. A refused value is kept, with the
rejection beside it. -/
def checkValue (settings : Settings) (field value : Text) : Text × List Rejection :=
  match settings.checks.find? field with
  | none => (value, [])
  | some check =>
    match check value with
    | .ok accepted => (accepted, [])
    | .error reason => (value, [⟨field, value, reason⟩])

/-- The clause of a term without a field: one match for every default field. -/
def buildDefault (settings : Settings) (raw : Text) : BuiltTerm :=
  let literal := Literal.ofRaw raw
  let checked := settings.defaultFields.map fun field =>
    (field, settings.checkValue field literal.value)
  { clause := Clauses.toClause {
      should := checked.map fun (field, value, _) =>
        settings.nest field (.text field value literal.quoted) }
    rejections := checked.flatMap fun (_, _, rejections) => rejections }

/-- The clause of a term on a field. -/
def buildFielded (settings : Settings) (field : Text) (kind : MatchKind) (raw : Text) :
    BuiltTerm :=
  let stored := settings.storedField field
  let literal :=
    if kind = .sigil .freeText then ⟨FreeText.ofRaw raw, false⟩ else Literal.ofRaw raw
  let (value, rejections) := settings.checkValue stored literal.value
  { clause := settings.nest stored (kind.leaf stored value literal.quoted), rejections }

/-- The clause of a term. Without a field the match kind has no effect. -/
def buildTerm (settings : Settings) (field : Option Text) (kind : MatchKind) (raw : Text) :
    BuiltTerm :=
  match field with
  | none => settings.buildDefault raw
  | some field => settings.buildFielded field kind raw

end Settings

end SearchQuery
