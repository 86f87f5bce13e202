import SearchQuery.Json.Parts
import SearchQuery.Settings

/-! # Settings files

A settings file holds a JSON object whose members set the options that are data; checks
cannot be written down. Members with other names are passed over, and an option that is
not set keeps its default. A list in place of the object gives the options by position.
-/

namespace SearchQuery

inductive SettingsKey where
  | defaultFields
  | nestedPaths
  | fieldMapping
  | maxDepth
  deriving Repr, DecidableEq

namespace SettingsKey

/-- The options in the order in which a list gives them. -/
def all : List SettingsKey := [.defaultFields, .nestedPaths, .fieldMapping, .maxDepth]

def name : SettingsKey → String
  | .defaultFields => "default_fields"
  | .nestedPaths => "nested_paths"
  | .fieldMapping => "field_mapping"
  | .maxDepth => "max_depth"

def ofName? (name : Text) : Option SettingsKey := all.find? fun key => Text.ofString key.name = name

end SettingsKey

structure SettingsData where
  defaultFields : Option (List Text) := none
  nestedPaths : Option (List Text) := none
  fieldMapping : Option (Table Text) := none
  maxDepth : Option Nat := none

namespace SettingsData

def has (data : SettingsData) : SettingsKey → Bool
  | .defaultFields => data.defaultFields.isSome
  | .nestedPaths => data.nestedPaths.isSome
  | .fieldMapping => data.fieldMapping.isSome
  | .maxDepth => data.maxDepth.isSome

/-- The settings in which every option that was not read has its default. -/
def toSettings (data : SettingsData) : Settings where
  defaultFields := data.defaultFields.getD []
  nestedPaths := data.nestedPaths.getD []
  fieldMapping := data.fieldMapping.getD ∅
  maxDepth := data.maxDepth.getD defaultMaxDepth

end SettingsData

/-- Why a settings file cannot be used. -/
inductive LoadProblem where
  | missing
  /-- The bytes of the file are no UTF-8. -/
  | notText
  | json (problem : Json.Problem)
  deriving Repr, DecidableEq

namespace SettingsFile

open Json

def readTexts (isFirst : Bool) (t : Text) : Reading (List Text) :=
  match _next : nextItem isFirst t with
  | .error problem => .error problem
  | .ok (false, rest) => .ok ([], rest)
  | .ok (true, item) =>
    match _read : readText item with
    | .error problem => .error problem
    | .ok (text, rest) => Reading.mapValue (text :: ·) (readTexts false rest)
termination_by t.length
decreasing_by exact Nat.lt_of_lt_of_le (length_of_readText _read) (length_of_nextItem _next)

def readTextList (t : Text) : Reading (List Text) :=
  match skipBlanks t with
  | '[' :: rest => readTexts true rest
  | other => .error (wrongType other)

/-- The members of an object of strings from a member on. -/
def readTargets (isFirst : Bool) (t : Text) : Reading (List (Text × Text)) :=
  match _next : nextName isFirst t with
  | .error problem => .error problem
  | .ok (none, rest) => .ok ([], rest)
  | .ok (some name, rest) =>
    match _colon : skipColon rest with
    | .error problem => .error problem
    | .ok value =>
      match _read : readText value with
      | .error problem => .error problem
      | .ok (target, rest) =>
        Reading.mapValue ((name, target) :: ·) (readTargets false rest)
termination_by t.length
decreasing_by
  exact Nat.lt_trans (length_of_readText _read)
    (Nat.lt_trans (length_of_skipColon _colon) (length_of_nextName _next))

/-- A table of strings, as a value. The last member of a name counts. -/
def readTable (t : Text) : Reading (Table Text) :=
  match skipBlanks t with
  | '{' :: rest => Reading.mapValue Table.ofList (readTargets true rest)
  | other => .error (wrongType other)

def readOption (key : SettingsKey) (data : SettingsData) (t : Text) : Reading SettingsData :=
  match key with
  | .defaultFields =>
    Reading.mapValue (fun texts => { data with defaultFields := some texts }) (readTextList t)
  | .nestedPaths =>
    Reading.mapValue (fun texts => { data with nestedPaths := some texts }) (readTextList t)
  | .fieldMapping =>
    Reading.mapValue (fun table => { data with fieldMapping := some table }) (readTable t)
  | .maxDepth =>
    Reading.mapValue (fun number => { data with maxDepth := some number }) (readNatural t)

theorem length_of_readTexts {isFirst : Bool} {t rest : Text} {texts : List Text}
    (read : readTexts isFirst t = .ok (texts, rest)) : rest.length < t.length := by
  fun_induction readTexts isFirst t generalizing texts rest with
  | case1 | case3 => cases read
  | case2 isFirst t after next =>
    cases read
    exact length_of_nextItem_end next
  | case4 isFirst t item next text after readItem ih =>
    obtain ⟨_, others, _⟩ := Reading.mapValue_eq_ok_iff.1 read
    have := length_of_nextItem next
    have := length_of_readText readItem
    have := ih others
    omega

theorem length_of_readTargets {isFirst : Bool} {t rest : Text} {targets : List (Text × Text)}
    (read : readTargets isFirst t = .ok (targets, rest)) : rest.length < t.length := by
  fun_induction readTargets isFirst t generalizing targets rest with
  | case1 | case3 | case4 => cases read
  | case2 isFirst t after next =>
    cases read
    exact length_of_nextName next
  | case5 isFirst t name after next value colon target behind readTarget ih =>
    obtain ⟨_, others, _⟩ := Reading.mapValue_eq_ok_iff.1 read
    have := length_of_nextName next
    have := length_of_skipColon colon
    have := length_of_readText readTarget
    have := ih others
    omega

theorem length_of_readTextList {t rest : Text} {texts : List Text}
    (read : readTextList t = .ok (texts, rest)) : rest.length < t.length := by
  unfold readTextList at read
  split at read
  · rename_i atBracket
    exact Nat.lt_trans (length_of_readTexts read) (length_lt_of_skipBlanks atBracket)
  · cases read

theorem length_of_readTable {t rest : Text} {table : Table Text}
    (read : readTable t = .ok (table, rest)) : rest.length < t.length := by
  unfold readTable at read
  split at read
  · rename_i atBracket
    obtain ⟨_, targets, _⟩ := Reading.mapValue_eq_ok_iff.1 read
    exact Nat.lt_trans (length_of_readTargets targets) (length_lt_of_skipBlanks atBracket)
  · cases read

theorem length_of_readOption {key : SettingsKey} {data found : SettingsData} {t rest : Text}
    (read : readOption key data t = .ok (found, rest)) : rest.length < t.length := by
  cases key <;>
    obtain ⟨_, value, _⟩ := Reading.mapValue_eq_ok_iff.1 read
  · exact length_of_readTextList value
  · exact length_of_readTextList value
  · exact length_of_readTable value
  · exact length_of_readNatural value

/-- Reads the options of a list, by position. Nothing may follow the last one. -/
def readPositions (isFirst : Bool) (keys : List SettingsKey) (data : SettingsData) (t : Text) :
    Reading SettingsData :=
  match keys with
  | [] =>
    match skipBlanks t with
    | ']' :: rest => .ok (data, rest)
    | [] => .error .truncated
    | _ => .error .malformed
  | key :: keys =>
    match nextItem isFirst t with
    | .error problem => .error problem
    | .ok (false, rest) => .ok (data, rest)
    | .ok (true, item) =>
      match readOption key data item with
      | .error problem => .error problem
      | .ok (data, rest) => readPositions false keys data rest

/-- Reads the options of an object, member by member. An option may be set only once; the
repetition is a problem before its value is looked at. -/
def readMembers (isFirst : Bool) (data : SettingsData) (t : Text) : Reading SettingsData :=
  match _next : nextName isFirst t with
  | .error problem => .error problem
  | .ok (none, rest) => .ok (data, rest)
  | .ok (some name, rest) =>
    match SettingsKey.ofName? name with
    | none =>
      match _colon : skipColon rest with
      | .error problem => .error problem
      | .ok value =>
        match _skipped : skipValue [] value with
        | .error problem => .error problem
        | .ok rest => readMembers false data rest
    | some key =>
      if data.has key then .error .mistyped
      else
        match _colon : skipColon rest with
        | .error problem => .error problem
        | .ok value =>
          match _read : readOption key data value with
          | .error problem => .error problem
          | .ok (data, rest) => readMembers false data rest
termination_by t.length
decreasing_by
  · exact Nat.lt_trans (length_of_skipValue _skipped)
      (Nat.lt_trans (length_of_skipColon _colon) (length_of_nextName _next))
  · exact Nat.lt_trans (length_of_readOption _read)
      (Nat.lt_trans (length_of_skipColon _colon) (length_of_nextName _next))

def readData (t : Text) : Except Problem SettingsData :=
  match options (skipBlanks t) with
  | .error problem => .error problem
  | .ok (data, rest) => if (skipBlanks rest).isEmpty then .ok data else .error .malformed
where
  options : Text → Reading SettingsData
    | '{' :: rest => readMembers true {} rest
    | '[' :: rest => readPositions true SettingsKey.all {} rest
    | other => .error (wrongType other)

end SettingsFile

/-- The settings in a file with the given content, if there is such a file. -/
def Settings.load (content : Option ByteArray) : Except LoadProblem Settings :=
  match content with
  | none => .error .missing
  | some bytes =>
    match String.fromUTF8? bytes with
    | none => .error .notText
    | some text =>
      match SettingsFile.readData text.toList with
      | .ok data => .ok data.toSettings
      | .error problem => .error (.json problem)

end SearchQuery
