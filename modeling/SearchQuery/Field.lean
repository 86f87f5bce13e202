import SearchQuery.Clause
import SearchQuery.Settings

/-! # Field names

Names are dotted: `host.ip` lies below `host`. The mapping of the settings turns the name
that a query uses into the name under which the field is stored, and the nested paths say
in which scopes a clause on a stored field has to be put.
-/

namespace SearchQuery

namespace Field

/-- What is left of a field that lies below `source`, beginning with the dot. -/
def below? (source field : Text) : Option Text :=
  match source.isPrefixOf? field with
  | some ('.' :: rest) => some ('.' :: rest)
  | _ => none

/-- Whether the field is the path itself or lies below it. -/
def isWithin (path field : Text) : Bool := field == path || (below? path field).isSome

/-- Of the mapping entries whose source the field lies below, the one with the longest
source: its target, and what is left of the field. -/
def longestMapped? (field : Text) : List (Text × Text) → Option (Text × Text)
  | [] => none
  | (source, target) :: others =>
    match below? source field, longestMapped? field others with
    | none, best => best
    | some rest, none => some (target, rest)
    | some rest, some best => if rest.length < best.2.length then some (target, rest) else some best

/-- Puts a path in front of the first one that is no longer than it. -/
def insertByLength (path : Text) : List Text → List Text
  | [] => [path]
  | other :: others =>
    if other.length ≤ path.length then path :: other :: others
    else other :: insertByLength path others

/-- Paths by falling length; those of one length keep their order. -/
def sortByLength (paths : List Text) : List Text := paths.foldr insertByLength []

end Field

namespace Settings

/-- The name under which a field is stored. A mapping of the whole name counts first, then
the mapping of the longest dotted name above it, and a field with neither keeps its name. -/
def storedField (settings : Settings) (field : Text) : Text :=
  match settings.fieldMapping.find? field with
  | some target => target
  | none =>
    match Field.longestMapped? field settings.fieldMapping.entries with
    | some (target, rest) => target ++ rest
    | none => field

/-- Puts a clause on the field into the scope of every nested path that holds the field,
the shortest path outermost. -/
def nest (settings : Settings) (field : Text) (clause : Clause) : Clause :=
  (Field.sortByLength (settings.nestedPaths.filter (Field.isWithin · field))).foldl
    (fun inner path => .nested path inner) clause

end Settings

end SearchQuery
