import Mathlib.Data.List.Infix
import Mathlib.Data.List.Nodup
import SearchQuery.Proofs.NestedPaths

/-! # The stored name of a field

A mapping names a field itself or a dotted name above it. Of several names above one field the
longest counts, and there is only one of that length, because all of them are beginnings of the
field. So the stored name is settled by what the mapping holds, in whatever order it holds it.
-/

namespace SearchQuery

namespace Table

variable {α : Type} {table : Table α} {key : Text} {value : α}

theorem find?_eq_some_iff : table.find? key = some value ↔ (key, value) ∈ table.entries := by
  rw [find?, List.lookup_eq_some_iff]
  constructor
  · rintro ⟨before, after, split, -⟩
    simp [split]
  · intro member
    obtain ⟨before, after, split⟩ := List.append_of_mem member
    refine ⟨before, after, split, ?_⟩
    have distinct := table.nodup_keys
    rw [split, List.map_append, List.nodup_append] at distinct
    intro entry isBefore
    have differ := distinct.2.2 entry.1 (List.mem_map_of_mem isBefore) key (by simp)
    simpa using Ne.symm differ

theorem mem_keys_iff : key ∈ table.keys ↔ ∃ value, table.find? key = some value := by
  simp [keys, find?_eq_some_iff]

theorem find?_eq_none_iff : table.find? key = none ↔ key ∉ table.keys := by
  simp [mem_keys_iff, Option.eq_none_iff_forall_ne_some]

theorem find?_perm {other : Table α} (same : other.entries.Perm table.entries) (key : Text) :
    other.find? key = table.find? key := by
  apply Option.ext
  intro value
  rw [find?_eq_some_iff, find?_eq_some_iff, same.mem_iff]

theorem find?_foldl_insert (table : Table α) (entries : List (Text × α)) (key : Text) :
    (entries.foldl (fun table entry => table.insert entry.1 entry.2) table).find? key =
      (entries.reverse.lookup key).or (table.find? key) := by
  -- Of several entries under one key the last is found.
  induction entries generalizing table with
  | nil => rfl
  | cons entry entries ih =>
      obtain ⟨name, value⟩ := entry
      rw [List.foldl_cons, ih, find?_insert, List.reverse_cons, List.lookup_append, Option.or_assoc]
      congr 1
      by_cases same : key = name
      · simp [same]
      · have isNotKey : (key == name) = false := by simp [same]
        simp [List.lookup_cons, same, isNotKey]

theorem find?_ofList_eq_lookup (entries : List (Text × α)) (key : Text) :
    (ofList entries).find? key = entries.reverse.lookup key := by
  rw [ofList, find?_foldl_insert]
  exact Option.or_none

theorem find?_ofList {entries : List (Text × α)} (distinct : (entries.map Prod.fst).Nodup) :
    (ofList entries).find? key = some value ↔ (key, value) ∈ entries := by
  have stillDistinct : (entries.reverse.map Prod.fst).Nodup := by
    rwa [List.map_reverse, List.nodup_reverse]
  rw [find?_ofList_eq_lookup, ← List.mem_reverse]
  exact @find?_eq_some_iff α ⟨entries.reverse, stillDistinct⟩ key value

/-- The longest of the keys that the field lies below, with what is behind the dot. -/
structure IsLongestAbove (table : Table α) (field source rest : Text) : Prop where
  mapped : source ∈ table.keys
  below : field = source ++ '.' :: rest
  longest : ∀ other ∈ table.keys, ∀ more, field = other ++ '.' :: more →
    Text.byteSize other ≤ Text.byteSize source

end Table

theorem Text.append_inj_of_byteSize {first second more rest : Text}
    (same : first ++ more = second ++ rest) (size : byteSize first = byteSize second) :
    first = second ∧ more = rest := by
  have cut := splitBytes?_append first more
  rw [same, size, splitBytes?_append, Option.some.injEq, Prod.mk.injEq] at cut
  exact ⟨cut.1.symm, cut.2.symm⟩

theorem Table.IsLongestAbove.unique {α : Type} {table : Table α}
    {field source other rest more : Text}
    (isLongest : table.IsLongestAbove field source rest)
    (alsoLongest : table.IsLongestAbove field other more) : source = other ∧ rest = more := by
  have size : Text.byteSize source = Text.byteSize other :=
    Nat.le_antisymm (alsoLongest.longest _ isLongest.mapped _ isLongest.below)
      (isLongest.longest _ alsoLongest.mapped _ alsoLongest.below)
  obtain ⟨same, behind⟩ :=
    Text.append_inj_of_byteSize (isLongest.below.symm.trans alsoLongest.below) size
  exact ⟨same, (List.cons.inj behind).2⟩

namespace Field

variable {field source target rest : Text} {entries : List (Text × Text)}

theorem below?_eq_some_iff {left : Text} :
    below? source field = some left ↔ ∃ rest, left = '.' :: rest ∧ field = source ++ left := by
  unfold below?
  split
  · rename_i rest isRest
    have isField := List.isPrefixOf?_eq_some_iff_append_eq.1 isRest
    constructor
    · rintro ⟨⟩
      exact ⟨rest, rfl, isField.symm⟩
    · rintro ⟨other, rfl, same⟩
      rw [← isField] at same
      rw [List.append_cancel_left same]
  · rename_i notBelow
    constructor
    · rintro ⟨⟩
    · rintro ⟨rest, rfl, isField⟩
      exact absurd (List.isPrefixOf?_eq_some_iff_append_eq.2 isField.symm) (notBelow rest)

theorem below?_eq_none_iff :
    below? source field = none ↔ ∀ rest, field ≠ source ++ '.' :: rest := by
  simp only [Option.eq_none_iff_forall_ne_some, ne_eq, below?_eq_some_iff]
  constructor
  · intro notBelow rest isField
    exact notBelow _ ⟨rest, rfl, isField⟩
  · rintro notBelow _ ⟨rest, rfl, isField⟩
    exact notBelow rest isField

theorem longestMapped?_eq_none_iff :
    longestMapped? field entries = none ↔
      ∀ entry ∈ entries, ∀ rest, field ≠ entry.1 ++ '.' :: rest := by
  induction entries with
  | nil => simp [longestMapped?]
  | cons entry entries ih =>
      obtain ⟨source, target⟩ := entry
      rw [List.forall_mem_cons, ← ih, ← below?_eq_none_iff, longestMapped?]
      split
      · rename_i notBelow
        simp [notBelow]
      · rename_i below _
        simp [below]
      · rename_i below _
        simp only [below, reduceCtorEq, false_and, iff_false]
        split <;> simp

/-- What is found is the target of a source that the field lies below, and of no other such source
is less left of the field. -/
theorem exists_source_of_longestMapped? {left : Text}
    (found : longestMapped? field entries = some (target, left)) :
    ∃ source rest, (source, target) ∈ entries ∧ left = '.' :: rest ∧ field = source ++ left ∧
      ∀ entry ∈ entries, ∀ more, field = entry.1 ++ '.' :: more → left.length ≤ more.length + 1 := by
  induction entries generalizing target left with
  | nil => cases found
  | cons entry entries ih =>
      obtain ⟨first, firstTarget⟩ := entry
      -- How much of the field a source that it lies below leaves is read off the field.
      have leaves : ∀ {behind more}, below? first field = some behind →
          field = first ++ '.' :: more → behind.length = more.length + 1 := by
        intro behind more below isField
        obtain ⟨rest, -, same⟩ := below?_eq_some_iff.1 below
        rw [List.append_cancel_left (same.symm.trans isField), List.length_cons]
      rw [longestMapped?] at found
      split at found
      · rename_i notBelow
        obtain ⟨source, rest, member, isLeft, isField, least⟩ := ih found
        refine ⟨source, rest, List.mem_cons_of_mem _ member, isLeft, isField, ?_⟩
        exact List.forall_mem_cons.2
          ⟨fun more isBelow => absurd isBelow (below?_eq_none_iff.1 notBelow more), least⟩
      · rename_i behind below noOther
        cases found
        obtain ⟨rest, isLeft, isField⟩ := below?_eq_some_iff.1 below
        refine ⟨first, rest, List.mem_cons_self, isLeft, isField, List.forall_mem_cons.2 ⟨?_, ?_⟩⟩
        · exact fun more isBelow => Nat.le_of_eq (leaves below isBelow)
        · intro entry member more isBelow
          exact absurd isBelow (longestMapped?_eq_none_iff.1 noOther entry member more)
      · rename_i behind best below isBest
        obtain ⟨bestTarget, bestLeft⟩ := best
        obtain ⟨source, rest, member, isLeft, isField, least⟩ := ih isBest
        split at found
        · rename_i shorter
          cases found
          obtain ⟨ownRest, isOwn, isOwnField⟩ := below?_eq_some_iff.1 below
          refine ⟨first, ownRest, List.mem_cons_self, isOwn, isOwnField,
            List.forall_mem_cons.2 ⟨?_, ?_⟩⟩
          · exact fun more isBelow => Nat.le_of_eq (leaves below isBelow)
          · intro entry member more isBelow
            exact Nat.le_trans (Nat.le_of_lt shorter) (least entry member more isBelow)
        · rename_i notShorter
          cases found
          refine ⟨source, rest, List.mem_cons_of_mem _ member, isLeft, isField,
            List.forall_mem_cons.2 ⟨?_, least⟩⟩
          intro more isBelow
          rw [← leaves below isBelow]
          exact Nat.le_of_not_lt notShorter

theorem exists_isLongestAbove_of_longestMapped? {mapping : Table Text} {left : Text}
    (found : longestMapped? field mapping.entries = some (target, left)) :
    ∃ source rest, mapping.IsLongestAbove field source rest ∧ mapping.find? source = some target ∧
      left = '.' :: rest := by
  -- The source of which the least is left is the longest.
  obtain ⟨source, rest, member, rfl, isField, least⟩ := exists_source_of_longestMapped? found
  have mapped : mapping.find? source = some target := Table.find?_eq_some_iff.2 member
  refine ⟨source, rest, ⟨Table.mem_keys_iff.2 ⟨target, mapped⟩, isField, ?_⟩, mapped, rfl⟩
  intro other otherMember more isBelow
  obtain ⟨otherTarget, otherMapped⟩ := Table.mem_keys_iff.1 otherMember
  have less := least _ (Table.find?_eq_some_iff.1 otherMapped) more isBelow
  have sizes := congrArg List.length (isField.symm.trans isBelow)
  simp only [List.length_append, List.length_cons] at sizes less
  apply Text.byteSize_le_of_prefix
  refine List.prefix_of_prefix_length_le ⟨_, isBelow.symm⟩ ⟨_, isField.symm⟩ ?_
  omega

end Field

namespace Settings

variable {settings other : Settings} {field source target rest : Text}

theorem storedField_of_mapped (mapped : settings.fieldMapping.find? field = some target) :
    settings.storedField field = target := by
  rw [storedField, mapped]

/-- A field below mapped names gets the target of the longest of them in its place. -/
theorem storedField_of_isLongestAbove (unmapped : field ∉ settings.fieldMapping.keys)
    (isLongest : settings.fieldMapping.IsLongestAbove field source rest)
    (mapped : settings.fieldMapping.find? source = some target) :
    settings.storedField field = target ++ '.' :: rest := by
  rw [storedField, Table.find?_eq_none_iff.2 unmapped]
  cases found : Field.longestMapped? field settings.fieldMapping.entries with
  | none =>
      have isEntry := Table.find?_eq_some_iff.1 mapped
      exact absurd isLongest.below (Field.longestMapped?_eq_none_iff.1 found _ isEntry rest)
  | some best =>
      obtain ⟨bestTarget, left⟩ := best
      obtain ⟨best, more, alsoLongest, bestMapped, rfl⟩ :=
        Field.exists_isLongestAbove_of_longestMapped? found
      obtain ⟨rfl, rfl⟩ := isLongest.unique alsoLongest
      cases mapped.symm.trans bestMapped
      rfl

theorem storedField_of_not_below (unmapped : field ∉ settings.fieldMapping.keys)
    (notBelow : ∀ source ∈ settings.fieldMapping.keys, ∀ rest, field ≠ source ++ '.' :: rest) :
    settings.storedField field = field := by
  have nothing : Field.longestMapped? field settings.fieldMapping.entries = none := by
    rw [Field.longestMapped?_eq_none_iff]
    exact fun entry member => notBelow entry.1 (List.mem_map_of_mem member)
  rw [storedField, Table.find?_eq_none_iff.2 unmapped, nothing]

theorem exists_isLongestAbove {mapping : Table Text}
    (below : ∃ source ∈ mapping.keys, ∃ rest, field = source ++ '.' :: rest) :
    ∃ source rest, mapping.IsLongestAbove field source rest := by
  obtain ⟨source, member, rest, isBelow⟩ := below
  obtain ⟨target, mapped⟩ := Table.mem_keys_iff.1 member
  cases found : Field.longestMapped? field mapping.entries with
  | none =>
      have isEntry := Table.find?_eq_some_iff.1 mapped
      exact absurd isBelow (Field.longestMapped?_eq_none_iff.1 found _ isEntry rest)
  | some best =>
      obtain ⟨longest, more, isLongest, -⟩ := Field.exists_isLongestAbove_of_longestMapped? found
      exact ⟨longest, more, isLongest⟩

theorem storedField_congr
    (same : ∀ name, other.fieldMapping.find? name = settings.fieldMapping.find? name) :
    other.storedField field = settings.storedField field := by
  have keys : ∀ name, name ∈ other.fieldMapping.keys ↔ name ∈ settings.fieldMapping.keys := by
    simp [Table.mem_keys_iff, same]
  by_cases mapped : field ∈ settings.fieldMapping.keys
  · obtain ⟨target, found⟩ := Table.mem_keys_iff.1 mapped
    rw [storedField_of_mapped found, storedField_of_mapped ((same field).trans found)]
  have unmapped : field ∉ other.fieldMapping.keys := (keys field).not.2 mapped
  by_cases below : ∃ source ∈ settings.fieldMapping.keys, ∃ rest, field = source ++ '.' :: rest
  · obtain ⟨source, rest, isLongest⟩ := exists_isLongestAbove below
    obtain ⟨target, found⟩ := Table.mem_keys_iff.1 isLongest.mapped
    have alsoLongest : other.fieldMapping.IsLongestAbove field source rest :=
      ⟨(keys source).2 isLongest.mapped, isLongest.below,
        fun name member => isLongest.longest name ((keys name).1 member)⟩
    rw [storedField_of_isLongestAbove mapped isLongest found,
      storedField_of_isLongestAbove unmapped alsoLongest ((same source).trans found)]
  · simp only [not_exists, not_and] at below
    rw [storedField_of_not_below mapped below,
      storedField_of_not_below unmapped fun name member => below name ((keys name).1 member)]

end Settings

/-- A mapping of the whole name of a field counts first, then that of the longest dotted name above
it. There is exactly one such name if there is any, and neither the order in which the mapping holds
its entries nor the one in which they were put in makes a difference. -/
theorem storedField_replaces_longest_source (settings : Settings) (field : Text) :
    let mapping := settings.fieldMapping
    (∀ target, mapping.find? field = some target → settings.storedField field = target) ∧
    (field ∉ mapping.keys →
      (∀ source rest target, mapping.IsLongestAbove field source rest →
        mapping.find? source = some target →
        settings.storedField field = target ++ '.' :: rest) ∧
      ((∀ source ∈ mapping.keys, ∀ rest, field ≠ source ++ '.' :: rest) →
        settings.storedField field = field)) ∧
    ((∃ source ∈ mapping.keys, ∃ rest, field = source ++ '.' :: rest) →
      ∃! source, ∃ rest, mapping.IsLongestAbove field source rest) ∧
    (∀ other : Table Text, other.entries.Perm mapping.entries →
      { settings with fieldMapping := other }.storedField field = settings.storedField field) ∧
    ∀ entries inserted : List (Text × Text), (entries.map Prod.fst).Nodup →
      inserted.Perm entries →
      { settings with fieldMapping := .ofList inserted }.storedField field =
        { settings with fieldMapping := .ofList entries }.storedField field := by
  intro mapping
  refine ⟨fun target => Settings.storedField_of_mapped, fun unmapped => ⟨?_, ?_⟩, ?_, ?_, ?_⟩
  · exact fun source rest target => Settings.storedField_of_isLongestAbove unmapped
  · exact Settings.storedField_of_not_below unmapped
  · intro below
    obtain ⟨source, rest, isLongest⟩ := Settings.exists_isLongestAbove below
    refine ⟨source, ⟨rest, isLongest⟩, ?_⟩
    rintro other ⟨more, alsoLongest⟩
    exact (alsoLongest.unique isLongest).1
  · intro other same
    exact Settings.storedField_congr (Table.find?_perm same)
  · intro entries inserted distinct same
    have stillDistinct := (same.map Prod.fst).nodup_iff.2 distinct
    apply Settings.storedField_congr
    intro name
    apply Option.ext
    intro target
    rw [Table.find?_ofList stillDistinct, Table.find?_ofList distinct, same.mem_iff]

/-- Both `a` and `a.b` are above `a.b.c`, where the longer one counts, and neither is above `ab`. -/
theorem storedField_replaces_longest_source_sample :
    let entries : List (Text × Text) := [(['a'], ['x']), (['a', '.', 'b'], ['y'])]
    let settings : Settings := { fieldMapping := .ofList entries }
    let mapping := settings.fieldMapping
    settings.storedField ['a'] = ['x'] ∧
    mapping.IsLongestAbove ['a', '.', 'b', '.', 'c'] ['a', '.', 'b'] ['c'] ∧
    settings.storedField ['a', '.', 'b', '.', 'c'] = ['y', '.', 'c'] ∧
    settings.storedField ['a', 'b'] = ['a', 'b'] ∧
    { settings with fieldMapping := .ofList entries.reverse }.storedField ['a', '.', 'b', '.', 'c'] =
      ['y', '.', 'c'] := by
  intro entries settings mapping
  have keys : mapping.keys = [['a', '.', 'b'], ['a']] := by decide
  have isLongest : mapping.IsLongestAbove ['a', '.', 'b', '.', 'c'] ['a', '.', 'b'] ['c'] :=
    { mapped := by simp [keys]
      below := rfl
      longest := by
        rw [keys]
        simp }
  obtain ⟨mapped, -⟩ := storedField_replaces_longest_source settings ['a']
  obtain ⟨-, whole, -, -, inserted⟩ :=
    storedField_replaces_longest_source settings ['a', '.', 'b', '.', 'c']
  obtain ⟨-, apart, -⟩ := storedField_replaces_longest_source settings ['a', 'b']
  have replaced := (whole (by decide)).1 _ _ ['y'] isLongest (by decide)
  have kept := (apart (by decide)).2 (by rw [keys]; simp)
  have reversed := inserted entries entries.reverse (by decide) entries.reverse_perm
  exact ⟨mapped ['x'] (by decide), isLongest, replaced, kept, reversed.trans replaced⟩

end SearchQuery
