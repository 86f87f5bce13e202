import SearchQuery.Text

/-! # Tables keyed by text

A finite map from names to values. Each name occurs once, so what a look-up finds does not
depend on the order of the entries.
-/

namespace SearchQuery

/-- A finite map whose keys are texts. -/
structure Table (α : Type) where
  entries : List (Text × α)
  /-- No key occurs twice. -/
  nodup_keys : (entries.map Prod.fst).Nodup

namespace Table

variable {α : Type}

def empty : Table α := ⟨[], List.nodup_nil⟩

instance : EmptyCollection (Table α) := ⟨empty⟩

instance : Inhabited (Table α) := ⟨empty⟩

def find? (table : Table α) (key : Text) : Option α := table.entries.lookup key

def keys (table : Table α) : List Text := table.entries.map Prod.fst

def isEmpty (table : Table α) : Bool := table.entries.isEmpty

/-- Puts a value under a key, in place of any earlier one. -/
def insert (table : Table α) (key : Text) (value : α) : Table α where
  entries := (key, value) :: table.entries.filter fun entry => entry.1 ≠ key
  nodup_keys := by
    have kept : ((table.entries.filter fun entry => entry.1 ≠ key).map Prod.fst).Nodup :=
      table.nodup_keys.sublist (List.filter_sublist.map Prod.fst)
    simp only [List.map_cons, List.nodup_cons, List.mem_map, List.mem_filter]
    refine ⟨?_, kept⟩
    rintro ⟨entry, ⟨_, other⟩, same⟩
    simp [same] at other

/-- The table of the given entries; the last entry of a key counts. -/
def ofList (entries : List (Text × α)) : Table α :=
  entries.foldl (fun table entry => table.insert entry.1 entry.2) empty

theorem lookup_filter_ne (entries : List (Text × α)) {key other : Text} (differ : key ≠ other) :
    (entries.filter fun entry => entry.1 ≠ other).lookup key = entries.lookup key := by
  induction entries with
  | nil => rfl
  | cons entry rest ih =>
    obtain ⟨name, value⟩ := entry
    by_cases isOther : name = other
    · have isNotKey : (key == name) = false := by simp [isOther, differ]
      simp only [List.filter_cons, isOther, ne_eq, not_true_eq_false, decide_false,
        Bool.false_eq_true, ↓reduceIte]
      rw [ih, List.lookup_cons, ← isOther, isNotKey]
    · simp only [List.filter_cons, isOther, ne_eq, not_false_eq_true, decide_true, ↓reduceIte,
        List.lookup_cons]
      cases key == name with
      | true => rfl
      | false => exact ih

/-- A look-up after an insertion finds the new value under its key and the old ones under
the others. -/
theorem find?_insert (table : Table α) (key other : Text) (value : α) :
    (table.insert other value).find? key = if key = other then some value else table.find? key := by
  by_cases same : key = other
  · simp [find?, insert, same]
  · have isNotKey : (key == other) = false := by simp [same]
    simp only [find?, insert, List.lookup_cons, isNotKey, same, ↓reduceIte]
    exact lookup_filter_ne table.entries same

end Table

end SearchQuery
