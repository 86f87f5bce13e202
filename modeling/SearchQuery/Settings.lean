import SearchQuery.Table

/-! # Settings of a parse

What a query means depends on the fields that are searched by default, on the names under
which fields are stored, on the paths whose documents are nested, and on the checks that
fields put their values through.
-/

namespace SearchQuery

/-- Checks the value of a field: the value to search for, or the reason to refuse it. -/
abbrev ValueCheck := Text → Except Text Text

/-- How deep groups may lie in each other unless the settings say otherwise. -/
def defaultMaxDepth : Nat := 32

/-- Everything that a parse depends on besides the query. -/
structure Settings where
  /-- The fields searched by a term that names none. -/
  defaultFields : List Text := []
  /-- The paths whose documents are nested in others. -/
  nestedPaths : List Text := []
  /-- The stored name of a field, or of all fields below a dotted name. -/
  fieldMapping : Table Text := ∅
  /-- How deep groups may lie in each other. -/
  maxDepth : Nat := defaultMaxDepth
  /-- The checks, by the stored names of their fields. -/
  checks : Table ValueCheck := ∅

namespace Settings

instance : Inhabited Settings := ⟨{}⟩

/-- Registers the check of a field, in place of any earlier one. -/
def withCheck (settings : Settings) (field : Text) (check : ValueCheck) : Settings :=
  { settings with checks := settings.checks.insert field check }

end Settings

end SearchQuery
