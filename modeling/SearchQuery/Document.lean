import SearchQuery.Text.Hex

/-! # JSON documents

The part of JSON that rendered queries need: strings, lists and objects. A document is
written in one of two layouts, on a single line or indented, and both follow the same
grammar, so what is read back does not depend on the layout.
-/

namespace SearchQuery

/-- A JSON document of strings, lists and objects. -/
inductive Document where
  | string (text : Text)
  | list (items : List Document)
  | object (members : List (Text × Document))
  deriving Repr, Inhabited

inductive Layout where
  /-- Without any space between the parts. -/
  | compact
  /-- Every item and member on a line of its own, two spaces further in than what holds
  it. -/
  | indented
  deriving Repr, DecidableEq

namespace Layout

/-- What stands between parts at a level: nothing, or a line break and the indentation. -/
def lineBreak : Layout → (level : Nat) → Text
  | .compact, _ => []
  | .indented, level => '\n' :: List.replicate (2 * level) ' '

def colon : Layout → Text
  | .compact => [':']
  | .indented => [':', ' ']

end Layout

namespace Document

/-- A character inside a string: as it is unless it ends the string, begins an escape or is
a control character. -/
def escape (c : Char) : Text :=
  if c = '"' then ['\\', '"']
  else if c = '\\' then ['\\', '\\']
  else if c = '\x08' then ['\\', 'b']
  else if c = '\x0c' then ['\\', 'f']
  else if c = '\n' then ['\\', 'n']
  else if c = '\r' then ['\\', 'r']
  else if c = '\t' then ['\\', 't']
  else if c.toNat < 0x20 then
    ['\\', 'u', '0', '0', Text.hexDigit (c.toNat / 16), Text.hexDigit (c.toNat % 16)]
  else [c]

def quote (text : Text) : Text := '"' :: text.flatMap escape ++ ['"']

mutual

/-- The text of a document whose brackets stand at an indentation level. Without parts the
brackets stand side by side in either layout. -/
def writeAt (layout : Layout) (level : Nat) : Document → Text
  | .string text => quote text
  | .list [] => ['[', ']']
  | .list (item :: items) =>
    '[' :: layout.lineBreak (level + 1) ++ writeAt layout (level + 1) item ++
      writeItems layout (level + 1) items ++ layout.lineBreak level ++ [']']
  | .object [] => ['{', '}']
  | .object ((name, value) :: members) =>
    '{' :: layout.lineBreak (level + 1) ++ quote name ++ layout.colon ++
      writeAt layout (level + 1) value ++ writeMembers layout (level + 1) members ++
      layout.lineBreak level ++ ['}']

/-- The items of a list behind the first, each with the comma before it. -/
def writeItems (layout : Layout) (level : Nat) : List Document → Text
  | [] => []
  | item :: items =>
    ',' :: layout.lineBreak level ++ writeAt layout level item ++ writeItems layout level items

/-- The members of an object behind the first, each with the comma before it. -/
def writeMembers (layout : Layout) (level : Nat) : List (Text × Document) → Text
  | [] => []
  | (name, value) :: members =>
    ',' :: layout.lineBreak level ++ quote name ++ layout.colon ++ writeAt layout level value ++
      writeMembers layout level members

end

def write (layout : Layout) (document : Document) : Text := document.writeAt layout 0

end Document

end SearchQuery
