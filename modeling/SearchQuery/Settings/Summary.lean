import SearchQuery.Settings
import SearchQuery.Text.Shown

/-! # What can be shown of the checks

A check is a function and cannot be shown, but the fields that have one can: as a set of
quoted names in ascending order.
-/

namespace SearchQuery

/-- The names of the fields that have a check, as a set in ascending order. -/
def Settings.showChecks (settings : Settings) : Text :=
  let names := settings.checks.keys.mergeSort fun first second =>
    !second.lex first fun c d => decide (c.toNat < d.toNat)
  '{' :: List.intercalate [',', ' '] (names.map Text.shown) ++ ['}']

end SearchQuery
