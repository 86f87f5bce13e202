import SearchQuery.Proofs.History

/-! # What is parsed from a text that stands elsewhere

Places are named in bytes of the whole query and levels in groups of the whole query. `Shift` says
how much deeper and further on a text stands, and `shifted` what that does to what is parsed from
it. `Parsed.joined` is what is parsed from two texts, one behind the other.
-/

namespace SearchQuery

/-- How many groups deeper a text stands, and how many bytes further on. -/
structure Shift where
  levels : Nat := 0
  bytes : Nat := 0

def Failure.shifted (shift : Shift) : Failure → Failure
  | .unclosedGroup offset => .unclosedGroup (offset + shift.bytes)
  | .nestedTooDeep limit => .nestedTooDeep (limit + shift.levels)
  | .rejected rejection => .rejected rejection

def Event.shifted (shift : Shift) : Event → Event
  | .read kind span => .read kind span
  | .groupOpened offset level => .groupOpened (offset + shift.bytes) (level + shift.levels)
  | .groupEntered body level => .groupEntered body (level + shift.levels)
  | .aborted failure => .aborted (failure.shifted shift)
  | .rejected rejection => .rejected rejection

def Entry.shifted (shift : Shift) (entry : Entry) : Entry where
  depth := entry.depth + shift.levels
  event := entry.event.shifted shift

/-- The settings that allow a text that stands elsewhere as many more levels. -/
def Settings.shifted (shift : Shift) (settings : Settings) : Settings :=
  settings.limitedTo (settings.maxDepth + shift.levels)

variable {shift : Shift}

@[simp] theorem Failure.isFatal_shifted (failure : Failure) :
    (failure.shifted shift).isFatal = failure.isFatal := by
  cases failure <;> rfl

theorem not_fatal_map_shifted {failure : Option Failure}
    (notFatal : ∀ fatal, failure = some fatal → fatal.isFatal = false) (fatal : Failure)
    (failed : failure.map (Failure.shifted shift) = some fatal) : fatal.isFatal = false := by
  obtain ⟨original, isOriginal, rfl⟩ := Option.map_eq_some_iff.1 failed
  rw [Failure.isFatal_shifted]
  exact notFatal original isOriginal

@[simp] theorem Failure.shifted_zero (failure : Failure) : failure.shifted {} = failure := by
  cases failure <;> rfl

@[simp] theorem Event.shifted_zero (event : Event) : event.shifted {} = event := by
  cases event <;> simp [shifted]

@[simp] theorem Entry.shifted_zero (entry : Entry) : entry.shifted {} = entry := by
  simp [shifted]

theorem BuiltTerm.map_shifted_failure? (built : BuiltTerm) :
    built.failure?.map (Failure.shifted shift) = built.failure? := by
  rw [failure?, Option.map_map]
  rfl

theorem Event.map_shifted_rejected (rejections : List Rejection) :
    (rejections.map Event.rejected).map (Event.shifted shift) = rejections.map Event.rejected := by
  rw [List.map_map]
  rfl

namespace Parsed

/-- What is parsed from the text if it stands elsewhere. -/
def shifted (shift : Shift) (parsed : Parsed) : Parsed where
  clauses := parsed.clauses
  failure := parsed.failure.map (Failure.shifted shift)
  log := parsed.log.map (Entry.shifted shift)

/-- What is parsed from two texts, one behind the other. A failure that ends the reading counts
more than any before it, and every other one less. -/
def joined (earlier later : Parsed) : Parsed where
  clauses := earlier.clauses.append later.clauses
  failure := later.fatal? <|> (earlier.failure <|> later.failure)
  log := earlier.log ++ later.log

variable {depth : Nat} {earlier parsed : Parsed}

@[simp] theorem shifted_zero (parsed : Parsed) : parsed.shifted {} = parsed := by
  have failures : Failure.shifted {} = id := funext Failure.shifted_zero
  have entries : Entry.shifted {} = id := funext Entry.shifted_zero
  simp [shifted, failures, entries]

theorem shifted_recording (depth : Nat) (events : List Event) (parsed : Parsed) :
    (parsed.recording depth events).shifted shift =
      (parsed.shifted shift).recording (depth + shift.levels)
        (events.map (Event.shifted shift)) := by
  simp [shifted, recording, Entry.shifted]

theorem shifted_entering (depth : Nat) (body : Text) (inner parsed : Parsed) :
    (parsed.entering depth body inner).shifted shift =
      (parsed.shifted shift).entering (depth + shift.levels) body (inner.shifted shift) := by
  simp [shifted, entering, Entry.shifted, Event.shifted, Nat.add_right_comm]

theorem shifted_adding (occur : Occur) (clause : Clause) (failure : Option Failure)
    (parsed : Parsed) :
    (parsed.adding occur clause failure).shifted shift =
      (parsed.shifted shift).adding occur clause (failure.map (Failure.shifted shift)) := by
  simp only [shifted, adding]
  cases parsed.failure <;> rfl

theorem shifted_aborting (depth : Nat) (fatal : Failure) (parsed : Parsed) :
    (parsed.aborting depth fatal).shifted shift =
      (parsed.shifted shift).aborting (depth + shift.levels) (fatal.shifted shift) :=
  shifted_recording depth _ _

theorem joined_recording (depth : Nat) (events : List Event) (earlier parsed : Parsed) :
    earlier.joined (parsed.recording depth events) =
      (earlier.joined parsed).recording depth events := by
  simp [joined, recording, fatal?]

theorem joined_entering (depth : Nat) (body : Text) (inner earlier parsed : Parsed) :
    earlier.joined (parsed.entering depth body inner) =
      (earlier.joined parsed).entering depth body inner := by
  simp [joined, entering, fatal?]

theorem joined_adding {failure : Option Failure} (unbroken : parsed.Unbroken)
    (notFatal : ∀ fatal, failure = some fatal → fatal.isFatal = false) (earlier : Parsed)
    (occur : Occur) (clause : Clause) :
    earlier.joined (parsed.adding occur clause failure) =
      (earlier.joined parsed).adding occur clause failure := by
  have stillUnbroken : (parsed.adding occur clause failure).Unbroken :=
    not_fatal_orElse unbroken notFatal
  rw [joined, joined, stillUnbroken.fatal?_eq, unbroken.fatal?_eq]
  simp [adding, Option.or_assoc]

theorem joined_aborting {fatal : Failure} (isFatal : fatal.isFatal) (depth : Nat)
    (earlier parsed : Parsed) :
    earlier.joined (parsed.aborting depth fatal) =
      (earlier.joined parsed).aborting depth fatal := by
  have ended : ({ parsed with failure := some fatal } : Parsed).fatal? = some fatal :=
    fatal?_of_isFatal rfl isFatal
  rw [aborting, joined_recording, joined, ended]
  rfl

theorem failure_joined_shifted (earlier parsed : Parsed) :
    (earlier.joined (parsed.shifted shift)).failure =
      (parsed.fatal?.map (Failure.shifted shift) <|> (earlier.failure <|> parsed.failure)) := by
  -- Only a failure that ends the reading names a place or a level.
  obtain ⟨clauses, failure, log⟩ := parsed
  cases failure with
  | none => rfl
  | some failure => cases failure <;> rfl

theorem Unbroken.shifted (unbroken : parsed.Unbroken) : (parsed.shifted shift).Unbroken :=
  not_fatal_map_shifted unbroken

theorem Unbroken.failure_shifted (unbroken : parsed.Unbroken) :
    (parsed.shifted shift).failure = parsed.failure := by
  obtain ⟨clauses, failure, log⟩ := parsed
  cases failure with
  | none => rfl
  | some failure =>
      cases failure with
      | rejected => rfl
      | unclosedGroup | nestedTooDeep => cases unbroken _ rfl

theorem failure_joined_of_none (unfailed : earlier.failure = none) (parsed : Parsed) :
    (earlier.joined parsed).failure = parsed.failure := by
  obtain ⟨clauses, failure, log⟩ := parsed
  rw [joined, unfailed]
  cases failure with
  | none => rfl
  | some failure => cases failure <;> rfl

@[simp] theorem empty_joined (parsed : Parsed) : empty.joined parsed = parsed := by
  change ⟨parsed.clauses, (empty.joined parsed).failure, parsed.log⟩ = parsed
  rw [failure_joined_of_none rfl]

@[simp] theorem joined_empty (parsed : Parsed) : parsed.joined empty = parsed := by
  simp [joined, empty, fatal?]

end Parsed

end SearchQuery
