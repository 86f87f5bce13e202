import Mathlib.Data.List.ReduceOption
import SearchQuery.Settings.File
import SearchQuery.Proofs.FieldMapping
import SearchQuery.Proofs.JsonValues

/-! # Settings files are read as they are written

A settings file gives each of the options that it sets as one member of an object. The members may
stand in any order, between members of other names with whatever value, and their names and values
may be spelled in every way that JSON allows. Reading such a file gives the options that were
written into it, the defaults of the others, and no checks.
-/

namespace SearchQuery

open Json

/-! ## The values of options -/

/-- A list of strings as it is written. -/
inductive Json.IsTextList : List Text → Text → Prop where
  | mk {blanks : Text} {items : List Padded} {texts : List Text} : AllBlank blanks →
      List.Forall₂ (fun item text => IsString item.inner text) items texts →
      IsTextList texts (Bracket.list.enclose blanks (items.map Padded.text))

/-- Whether a member has the name and the string as its value. -/
def Json.IsEntry (member : Member) (entry : Text × Text) : Prop :=
  IsString member.name.inner entry.1 ∧ IsString member.value.inner entry.2

/-- An object of strings as it is written. -/
inductive Json.IsTable : List (Text × Text) → Text → Prop where
  | mk {blanks : Text} {members : List Member} {entries : List (Text × Text)} : AllBlank blanks →
      List.Forall₂ IsEntry members entries →
      IsTable entries (Bracket.object.enclose blanks (members.map Member.text))

namespace SettingsData

/-- Whether a text is the value of an option. In a table the last member of a name counts. -/
def Writes (data : SettingsData) (written : Text) : SettingsKey → Prop
  | .defaultFields => ∃ texts, data.defaultFields = some texts ∧ IsTextList texts written
  | .nestedPaths => ∃ texts, data.nestedPaths = some texts ∧ IsTextList texts written
  | .fieldMapping =>
    ∃ table entries, data.fieldMapping = some table ∧ IsTable entries written ∧
      ∀ name, table.find? name = entries.reverse.lookup name
  | .maxDepth => ∃ depth, data.maxDepth = some depth ∧ depth < 2 ^ 64 ∧ written = Text.ofNat depth

end SettingsData

/-- A member of a settings file: an option with its value, or a member of another name. -/
inductive IsSettingsMember (data : SettingsData) : Member → Option SettingsKey → Prop where
  | option {member : Member} {key : SettingsKey} :
      IsString member.name.inner (Text.ofString key.name) → data.Writes member.value.inner key →
      IsSettingsMember data member (some key)
  | other {member : Member} {name : Text} : IsString member.name.inner name →
      (∀ key : SettingsKey, name ≠ Text.ofString key.name) → IsValue member.value.inner →
      IsSettingsMember data member none

/-- A settings file with the options that the data has, each of them once. -/
inductive IsSettingsText (data : SettingsData) : Text → Prop where
  | mk {before blanks after : Text} {members : List Member} {keys : List (Option SettingsKey)} :
      AllBlank before → AllBlank blanks → AllBlank after →
      List.Forall₂ (IsSettingsMember data) members keys →
      keys.reduceOption.Perm (SettingsKey.all.filter data.has) →
      IsSettingsText data
        (before ++ (Bracket.object.enclose blanks (members.map Member.text) ++ after))

/-! ## Reading parts -/

namespace Json

variable {isFirst : Bool} {blanks rest : Text}

theorem readText_append {written value : Text} (isString : IsString written value)
    (blank : AllBlank blanks) (rest : Text) :
    readText (blanks ++ (written ++ rest)) = .ok (value, rest) := by
  obtain ⟨inner, rfl, read⟩ := isString.exists_inner
  rw [readText, List.cons_append, skipBlanks_append_cons blank rfl]
  exact read rest

theorem nextItem_separated_nil (blank : AllBlank blanks) (rest : Text) :
    nextItem isFirst (blanks ++ (separated isFirst [] ++ Bracket.list.closing :: rest)) =
      .ok (false, rest) :=
  nextItem_end (skipBlanks_append_cons blank rfl rest)

theorem nextName_separated_nil (blank : AllBlank blanks) (rest : Text) :
    nextName isFirst (blanks ++ (separated isFirst [] ++ Bracket.object.closing :: rest)) =
      .ok (none, rest) :=
  nextName_end (skipBlanks_append_cons blank rfl rest)

theorem nextItem_separated_cons (isFirst : Bool) {item : Padded} {text : Text}
    (isString : IsString item.inner text) (blank : AllBlank blanks) (parts : List Text)
    (rest : Text) :
    ∃ found, nextItem isFirst (blanks ++ (separated isFirst (item.text :: parts) ++ rest)) =
        .ok (true, found) ∧
      readText found = .ok (text, item.after ++ (separated false parts ++ rest)) := by
  -- A string is found as an item and can be read.
  obtain ⟨inner, begins, -⟩ := isString.exists_inner
  have written : skipBlanks (item.text ++ (separated false parts ++ rest)) =
      '"' :: (inner ++ (item.after ++ (separated false parts ++ rest))) := by
    rw [item.text_append, begins]
    exact skipBlanks_append_cons item.blank_before rfl _
  have read := readText_append isString allBlank_nil
    (item.after ++ (separated false parts ++ rest))
  rw [begins] at read
  rw [nextItem_blanks blank, separated, List.append_assoc, List.append_assoc]
  exact ⟨_, nextItem_separator written (by decide), read⟩

theorem nextName_separated_cons (isFirst : Bool) {member : Member} {name : Text}
    (isString : IsString member.name.inner name) (blank : AllBlank blanks) (parts : List Text)
    (rest : Text) :
    ∃ behind, nextName isFirst (blanks ++ (separated isFirst (member.text :: parts) ++ rest)) =
        .ok (some name, behind) ∧
      skipColon behind = .ok (member.value.before ++ (member.value.inner ++
        (member.value.after ++ (separated false parts ++ rest)))) := by
  obtain ⟨inner, begins, read⟩ := isString.exists_inner
  have written : skipBlanks (member.text ++ (separated false parts ++ rest)) =
      '"' :: (inner ++ (member.name.after ++
        ':' :: (member.value.text ++ (separated false parts ++ rest)))) := by
    rw [member.text_append, member.name.text_append, begins]
    exact skipBlanks_append_cons member.name.blank_before rfl _
  rw [nextName_blanks blank, separated, List.append_assoc, List.append_assoc,
    ← member.value.text_append]
  exact ⟨_, nextName_separator written (read _),
    skipColon_of_colon (skipBlanks_append_cons member.name.blank_after rfl _)⟩

end Json

namespace SettingsFile

variable {isFirst : Bool} {blanks rest t behind value : Text}

/-! ## Reading the values of options -/

theorem readTexts_end (next : nextItem isFirst t = .ok (false, rest)) :
    readTexts isFirst t = .ok ([], rest) := by
  rw [readTexts]
  generalize nextItem isFirst t = found at next ⊢
  subst next
  rfl

theorem readTexts_item {text : Text} (next : nextItem isFirst t = .ok (true, value))
    (read : readText value = .ok (text, rest)) :
    readTexts isFirst t = Reading.mapValue (text :: ·) (readTexts false rest) := by
  rw [readTexts]
  split <;> simp_all
  split <;> simp_all

theorem readTargets_end (next : nextName isFirst t = .ok (none, rest)) :
    readTargets isFirst t = .ok ([], rest) := by
  rw [readTargets]
  generalize nextName isFirst t = found at next ⊢
  subst next
  rfl

theorem readTargets_member {name target : Text}
    (next : nextName isFirst t = .ok (some name, behind)) (colon : skipColon behind = .ok value)
    (read : readText value = .ok (target, rest)) :
    readTargets isFirst t =
      Reading.mapValue ((name, target) :: ·) (readTargets false rest) := by
  rw [readTargets]
  split <;> simp_all
  split <;> simp_all
  split <;> simp_all

theorem readTexts_separated {items : List Padded} {texts : List Text}
    (areStrings : List.Forall₂ (fun item text => IsString item.inner text) items texts)
    (blank : AllBlank blanks) (rest : Text) :
    readTexts isFirst (blanks ++ (separated isFirst (items.map Padded.text) ++
      Bracket.list.closing :: rest)) = .ok (texts, rest) := by
  induction areStrings generalizing isFirst blanks with
  | nil => exact readTexts_end (nextItem_separated_nil blank rest)
  | @cons item text items texts isString _ ih =>
      obtain ⟨found, next, read⟩ := nextItem_separated_cons isFirst isString blank
        (items.map Padded.text) (Bracket.list.closing :: rest)
      rw [List.map_cons, readTexts_item next read, ih item.blank_after]
      rfl

theorem readTargets_separated {members : List Member} {entries : List (Text × Text)}
    (areEntries : List.Forall₂ IsEntry members entries) (blank : AllBlank blanks) (rest : Text) :
    readTargets isFirst (blanks ++ (separated isFirst (members.map Member.text) ++
      Bracket.object.closing :: rest)) = .ok (entries, rest) := by
  induction areEntries generalizing isFirst blanks with
  | nil => exact readTargets_end (nextName_separated_nil blank rest)
  | @cons member entry members entries isEntry _ ih =>
      obtain ⟨isName, isTarget⟩ := isEntry
      obtain ⟨behind, next, colon⟩ := nextName_separated_cons isFirst isName blank
        (members.map Member.text) (Bracket.object.closing :: rest)
      have read := readText_append isTarget member.value.blank_before
        (member.value.after ++ (separated false (members.map Member.text) ++
          Bracket.object.closing :: rest))
      rw [List.map_cons, readTargets_member next colon read, ih member.value.blank_after]
      rfl

theorem readTextList_append {texts : List Text} {written : Text}
    (isTextList : IsTextList texts written) (blank : AllBlank blanks) (rest : Text) :
    readTextList (blanks ++ (written ++ rest)) = .ok (texts, rest) := by
  cases isTextList with
  | mk inside areStrings =>
      rw [readTextList, Bracket.enclose_append, skipBlanks_append_cons blank rfl]
      exact readTexts_separated areStrings inside rest

theorem readTable_append {entries : List (Text × Text)} {written : Text}
    (isTable : IsTable entries written) (blank : AllBlank blanks) (rest : Text) :
    readTable (blanks ++ (written ++ rest)) = .ok (Table.ofList entries, rest) := by
  cases isTable with
  | mk inside areEntries =>
      rw [readTable, Bracket.enclose_append, skipBlanks_append_cons blank rfl]
      exact congrArg (Reading.mapValue Table.ofList) (readTargets_separated areEntries inside rest)

end SettingsFile

/-! ## What is found in the options -/

theorem Table.find?_getD {α : Type} (table : Option (Table α)) :
    (table.getD ∅).find? = (table.map Table.find?).getD fun _ => none := by
  cases table <;> rfl

namespace SettingsData

variable {first second third : SettingsData} {key : SettingsKey}

/-- Whether two data give the same value of an option. Tables are the same if the same is found in
them. -/
def SameAt (first second : SettingsData) : SettingsKey → Prop
  | .defaultFields => first.defaultFields = second.defaultFields
  | .nestedPaths => first.nestedPaths = second.nestedPaths
  | .fieldMapping => first.fieldMapping.map Table.find? = second.fieldMapping.map Table.find?
  | .maxDepth => first.maxDepth = second.maxDepth

theorem SameAt.refl (data : SettingsData) (key : SettingsKey) : data.SameAt data key := by
  cases key <;> rfl

theorem SameAt.trans (same : first.SameAt second key) (also : second.SameAt third key) :
    first.SameAt third key := by
  cases key <;> exact Eq.trans same also

theorem SameAt.has_eq (same : first.SameAt second key) : first.has key = second.has key := by
  cases key with
  | defaultFields | nestedPaths | maxDepth => exact congrArg Option.isSome same
  | fieldMapping => simpa [has] using congrArg Option.isSome same

theorem sameAt_empty (absent : first.has key = false) : SameAt {} first key := by
  cases key <;> simp_all [has, SameAt]

/-- Options that are read one after the other are read as if they were read at once. -/
theorem sameAt_cons {result after found data : SettingsData} {keys : List SettingsKey}
    (sameAfter : ∀ other, after.SameAt (if other = key then data else found) other)
    (same : ∀ other, result.SameAt (if other ∈ keys then data else after) other)
    (other : SettingsKey) :
    result.SameAt (if other ∈ key :: keys then data else found) other := by
  have sameOther := same other
  by_cases isLater : other ∈ keys
  · rw [if_pos isLater] at sameOther
    rwa [if_pos (List.mem_cons_of_mem key isLater)]
  · rw [if_neg isLater] at sameOther
    simpa [isLater] using sameOther.trans (sameAfter other)

end SettingsData

namespace SettingsFile

variable {isFirst : Bool} {blanks rest t behind value : Text} {data found : SettingsData}

theorem readOption_append (found : SettingsData) {key : SettingsKey} {written : Text}
    (writes : data.Writes written key) (blank : AllBlank blanks) (ends : EndsNumber rest) :
    ∃ result, readOption key found (blanks ++ (written ++ rest)) = .ok (result, rest) ∧
      ∀ other, result.SameAt (if other = key then data else found) other := by
  cases key with
  | defaultFields =>
      obtain ⟨texts, isTexts, isTextList⟩ := writes
      refine ⟨{ found with defaultFields := some texts }, ?_, ?_⟩
      · rw [readOption, readTextList_append isTextList blank]
        rfl
      · intro other
        cases other <;> simp [SettingsData.SameAt, isTexts]
  | nestedPaths =>
      obtain ⟨texts, isTexts, isTextList⟩ := writes
      refine ⟨{ found with nestedPaths := some texts }, ?_, ?_⟩
      · rw [readOption, readTextList_append isTextList blank]
        rfl
      · intro other
        cases other <;> simp [SettingsData.SameAt, isTexts]
  | fieldMapping =>
      obtain ⟨table, entries, isMapping, isTable, finds⟩ := writes
      refine ⟨{ found with fieldMapping := some (Table.ofList entries) }, ?_, ?_⟩
      · rw [readOption, readTable_append isTable blank]
        rfl
      · have same : (Table.ofList entries).find? = table.find? := by
          funext name
          rw [Table.find?_ofList_eq_lookup, finds]
        intro other
        cases other <;> simp [SettingsData.SameAt, isMapping, same]
  | maxDepth =>
      obtain ⟨depth, isDepth, fits, rfl⟩ := writes
      refine ⟨{ found with maxDepth := some depth }, ?_, ?_⟩
      · rw [readOption, readNatural_ofNat blank (Nat.le_sub_one_of_lt fits) ends]
        rfl
      · intro other
        cases other <;> simp [SettingsData.SameAt, isDepth]

/-! ## Reading the members -/

theorem ofName?_name (key : SettingsKey) :
    SettingsKey.ofName? (Text.ofString key.name) = some key := by
  cases key <;> simp [SettingsKey.ofName?, SettingsKey.all, SettingsKey.name]

theorem ofName?_eq_none {name : Text}
    (isOther : ∀ key : SettingsKey, name ≠ Text.ofString key.name) :
    SettingsKey.ofName? name = none := by
  rw [SettingsKey.ofName?, List.find?_eq_none]
  intro key _
  simpa [eq_comm] using isOther key

theorem readMembers_end (next : nextName isFirst t = .ok (none, rest)) :
    readMembers isFirst data t = .ok (data, rest) := by
  rw [readMembers]
  generalize nextName isFirst t = found at next ⊢
  subst next
  rfl

theorem readMembers_option {name : Text} {key : SettingsKey}
    (next : nextName isFirst t = .ok (some name, behind))
    (isOption : SettingsKey.ofName? name = some key) (isNew : data.has key = false)
    (colon : skipColon behind = .ok value) (read : readOption key data value = .ok (found, rest)) :
    readMembers isFirst data t = readMembers false found rest := by
  rw [readMembers]
  split <;> simp_all
  split <;> simp_all
  split <;> simp_all

theorem readMembers_other {name : Text} (next : nextName isFirst t = .ok (some name, behind))
    (isOther : SettingsKey.ofName? name = none) (colon : skipColon behind = .ok value)
    (skipped : skipValue [] value = .ok rest) :
    readMembers isFirst data t = readMembers false data rest := by
  rw [readMembers]
  split <;> simp_all
  split <;> simp_all
  split <;> simp_all

theorem readMembers_separated (isFirst : Bool) {members : List Member}
    {keys : List (Option SettingsKey)}
    (areMembers : List.Forall₂ (IsSettingsMember data) members keys)
    (distinct : keys.reduceOption.Nodup)
    (areNew : ∀ key ∈ keys.reduceOption, found.has key = false) (blank : AllBlank blanks)
    (rest : Text) :
    ∃ result, readMembers isFirst found (blanks ++ (separated isFirst (members.map Member.text) ++
        Bracket.object.closing :: rest)) = .ok (result, rest) ∧
      ∀ key, result.SameAt (if key ∈ keys.reduceOption then data else found) key := by
  induction areMembers generalizing isFirst found blanks with
  | nil => exact ⟨found, readMembers_end (nextName_separated_nil blank rest), .refl found⟩
  | @cons member key members keys isMember _ ih =>
      -- The other members, from behind the value of this one on.
      let others := separated false (members.map Member.text) ++ Bracket.object.closing :: rest
      have ends : EndsNumber (member.value.after ++ others) :=
        (endsNumber_separated .object _ rest).append member.value.blank_after
      cases isMember with
      | @option key isName writes =>
          rw [List.reduceOption_cons_of_some] at distinct areNew ⊢
          obtain ⟨isOnly, distinct⟩ := List.nodup_cons.1 distinct
          obtain ⟨isNew, areNew⟩ := List.forall_mem_cons.1 areNew
          obtain ⟨behind, next, colon⟩ := nextName_separated_cons isFirst isName blank
            (members.map Member.text) (Bracket.object.closing :: rest)
          obtain ⟨after, read, sameAfter⟩ :=
            readOption_append found writes member.value.blank_before ends
          have stillNew : ∀ other ∈ keys.reduceOption, after.has other = false := by
            intro other isOther
            have sameOther := sameAfter other
            rw [if_neg (ne_of_mem_of_not_mem isOther isOnly)] at sameOther
            exact sameOther.has_eq.trans (areNew other isOther)
          obtain ⟨result, readOthers, same⟩ := ih false distinct stillNew member.value.blank_after
          refine ⟨result, ?_, SettingsData.sameAt_cons sameAfter same⟩
          rw [List.map_cons, readMembers_option next (ofName?_name key) isNew colon read]
          exact readOthers
      | other isName isOther isValue =>
          rw [List.reduceOption_cons_of_none] at distinct areNew ⊢
          obtain ⟨behind, next, colon⟩ := nextName_separated_cons isFirst isName blank
            (members.map Member.text) (Bracket.object.closing :: rest)
          have skipped := isValue.skips [] member.value.blank_before ends
          rw [skipMore] at skipped
          obtain ⟨result, readOthers, same⟩ := ih false distinct areNew member.value.blank_after
          refine ⟨result, ?_, same⟩
          rw [List.map_cons, readMembers_other next (ofName?_eq_none isOther) colon skipped]
          exact readOthers

/-- The options that a settings file sets are read from it. -/
theorem readData_settingsText {text : Text} (isText : IsSettingsText data text) :
    ∃ result, readData text = .ok result ∧ ∀ key, result.SameAt data key := by
  cases isText with
  | @mk before blanks after members keys blankBefore blank blankAfter areMembers isPerm =>
      have isKey : ∀ key, key ∈ keys.reduceOption ↔ data.has key := by
        intro key
        have isOption : key ∈ SettingsKey.all := by cases key <;> decide
        simp [isPerm.mem_iff, isOption]
      have distinct : keys.reduceOption.Nodup := by
        have noneTwice : SettingsKey.all.Nodup := by decide
        exact isPerm.nodup_iff.2 (noneTwice.filter _)
      have areNew : ∀ key ∈ keys.reduceOption, SettingsData.has {} key = false := by
        intro key _
        cases key <;> rfl
      obtain ⟨result, read, same⟩ :=
        readMembers_separated true areMembers distinct areNew blank after
      have ended : skipBlanks after = [] := by
        rw [← List.append_nil after, skipBlanks_append blankAfter]
        rfl
      refine ⟨result, ?_, ?_⟩
      · rw [readData, Bracket.enclose_append, skipBlanks_append_cons blankBefore rfl]
        simp [readData.options, Bracket.opening, read, ended]
      · intro key
        have sameKey := same key
        split at sameKey
        · exact sameKey
        · rename_i notKey
          rw [isKey, Bool.not_eq_true] at notKey
          exact sameKey.trans (SettingsData.sameAt_empty notKey)

end SettingsFile

theorem fromUTF8?_toUTF8 (text : String) : String.fromUTF8? text.toUTF8 = some text :=
  dif_pos text.isValidUTF8

/-- Loading settings undoes writing them: an option is as it was written, or has its default if it
was left out, and there is no check. -/
theorem Settings.load_undoes_writing {data : SettingsData} {text : String}
    (isText : IsSettingsText data text.toList) :
    ∃ settings, Settings.load (some text.toUTF8) = .ok settings ∧
      settings.defaultFields = data.defaultFields.getD (default : Settings).defaultFields ∧
      settings.nestedPaths = data.nestedPaths.getD (default : Settings).nestedPaths ∧
      (∀ field, settings.fieldMapping.find? field =
        (data.fieldMapping.getD (default : Settings).fieldMapping).find? field) ∧
      settings.maxDepth = data.maxDepth.getD (default : Settings).maxDepth ∧
      settings.checks = ∅ := by
  obtain ⟨result, read, same⟩ := SettingsFile.readData_settingsText isText
  have loaded : Settings.load (some text.toUTF8) = .ok result.toSettings := by
    simp only [Settings.load, fromUTF8?_toUTF8, read]
  refine ⟨result.toSettings, loaded, ?_, ?_, ?_, ?_, rfl⟩
  · exact congrArg (Option.getD · []) (same .defaultFields)
  · exact congrArg (Option.getD · []) (same .nestedPaths)
  · intro field
    change (result.fieldMapping.getD ∅).find? field = (data.fieldMapping.getD ∅).find? field
    have sameTable : result.fieldMapping.map Table.find? = data.fieldMapping.map Table.find? :=
      same .fieldMapping
    rw [Table.find?_getD, Table.find?_getD, sameTable]
  · exact congrArg (Option.getD · defaultMaxDepth) (same .maxDepth)

theorem Settings.load_undoes_writing_surrogates :
    let data : SettingsData :=
      { defaultFields := some [['😀']], maxDepth := some 18446744073709551615 }
    let text := "\x7b\"\\u006dax_depth\" : 18446744073709551615,\n".toList ++
      "\"field_callbacks\":[\"\\ud800\"],\"field_callbacks\":null,".toList ++
      "\"default_fields\":[\"\\ud83d\\uDE00\"]\x7d".toList
    IsSettingsText data text ∧
      ∃ settings, Settings.load (some (String.ofList text).toUTF8) = .ok settings ∧
        settings.defaultFields = [['😀']] ∧ settings.nestedPaths = [] ∧
        (∀ field, settings.fieldMapping.find? field = none) ∧
        settings.maxDepth = 18446744073709551615 ∧ settings.checks = ∅ := by
  intro data text
  have depthName : IsString "\"\\u006dax_depth\"".toList (Text.ofString "max_depth") := by
    refine ⟨['\\', 'u', '0', '0', '6', 'd'] :: "ax_depth".toList.map ([·]), ?_, by decide⟩
    rw [Text.ofString_eq]
    exact .cons (.code (Text.hexNumber?_eq_some_iff.1 rfl)) (units_plain (by decide))
  have fieldsName : IsString "\"default_fields\"".toList (Text.ofString "default_fields") := by
    rw [Text.ofString_eq]
    exact isString_plain (by decide)
  have field : IsString "\"\\ud83d\\uDE00\"".toList ['😀'] := by
    have leading : Text.IsHexNumber ['d', '8', '3', 'd'] (0xD800 + 0x3D) :=
      Text.hexNumber?_eq_some_iff.1 rfl
    have trailing : Text.IsHexNumber ['D', 'E', '0', '0'] (0xDC00 + 0x200) :=
      Text.hexNumber?_eq_some_iff.1 rfl
    exact ⟨_, .cons (.surrogates leading trailing (by decide) (by decide) rfl) .nil, by decide⟩
  have otherName : IsString "\"field_callbacks\"".toList "field_callbacks".toList :=
    isString_plain (by decide)
  have isOther : ∀ key : SettingsKey, "field_callbacks".toList ≠ Text.ofString key.name := by
    intro key
    rw [Text.ofString_eq]
    cases key <;> decide
  have loneSurrogate : IsStringText "\"\\ud800\"".toList := by
    refine ⟨[['\\', 'u', 'd', '8', '0', '0']], ?_, by decide⟩
    exact List.forall_mem_singleton.2 (.code (Text.hexNumber?_eq_some_iff.1 rfl))
  have areMembers : List.Forall₂ (IsSettingsMember data)
      [⟨⟨[], "\"\\u006dax_depth\"".toList, [' '], by decide, by decide⟩,
        ⟨[' '], Text.ofNat 18446744073709551615, [], by decide, by decide⟩⟩,
      ⟨⟨['\n'], "\"field_callbacks\"".toList, [], by decide, by decide⟩,
        .bare (Bracket.list.enclose [] ([.bare "\"\\ud800\"".toList].map Padded.text))⟩,
      ⟨.bare "\"field_callbacks\"".toList, .bare ['n', 'u', 'l', 'l']⟩,
      ⟨.bare "\"default_fields\"".toList,
        .bare (Bracket.list.enclose [] ([.bare "\"\\ud83d\\uDE00\"".toList].map Padded.text))⟩]
      [some .maxDepth, none, none, some .defaultFields] := by
    refine .cons (.option depthName ⟨_, rfl, by decide, rfl⟩) <|
      .cons (.other otherName isOther (.list allBlank_nil ?_)) <|
      .cons (.other otherName isOther (.scalar (.word (by decide)))) <|
      .cons (.option fieldsName ⟨_, rfl, .mk allBlank_nil (.cons field .nil)⟩) .nil
    exact List.forall_mem_singleton.2 (.scalar (.string loneSurrogate))
  have isText : IsSettingsText data text := by
    refine Eq.subst (motive := IsSettingsText data) ?_
      (.mk allBlank_nil allBlank_nil allBlank_nil areMembers (by decide))
    decide +kernel
  have isFile : IsSettingsText data (String.ofList text).toList := by
    rwa [String.toList_ofList]
  obtain ⟨settings, loaded, fields, paths, mapping, depth, checks⟩ :=
    Settings.load_undoes_writing isFile
  exact ⟨isText, settings, loaded, fields, paths, mapping, depth, checks⟩

end SearchQuery
