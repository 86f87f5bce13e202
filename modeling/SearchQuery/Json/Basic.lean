import SearchQuery.Text

/-! # Reading JSON

What is wrong with a JSON text is reported as the kind of the first problem from the left.
Reading gives a value together with the text behind it, and always less text than there
was, so every repetition comes to an end.
-/

namespace SearchQuery.Json

/-- What is wrong with a JSON text, seen from where reading stopped. -/
inductive Problem where
  /-- The text is no JSON from here on. -/
  | malformed
  | truncated
  /-- The value is none that could stand here. -/
  | mistyped
  deriving Repr, DecidableEq

/-- What reading gives: a value and the text behind it, or the first problem. -/
abbrev Reading (α : Type) := Except Problem (α × Text)

namespace Reading

/-- Makes something else of the value that was read. -/
def mapValue {α β : Type} (make : α → β) : Reading α → Reading β
  | .error problem => .error problem
  | .ok (value, rest) => .ok (make value, rest)

theorem mapValue_eq_ok_iff {α β : Type} {make : α → β} {read : Reading α} {made : β}
    {rest : Text} :
    mapValue make read = .ok (made, rest) ↔
      ∃ value, read = .ok (value, rest) ∧ make value = made := by
  rcases read with problem | ⟨value, after⟩ <;> simp [mapValue]
  grind

end Reading

def isBlank (c : Char) : Bool := c ∈ [' ', '\t', '\n', '\r']

def skipBlanks (t : Text) : Text := t.dropWhile isBlank

theorem length_skipBlanks_le (t : Text) : (skipBlanks t).length ≤ t.length :=
  (List.dropWhile_suffix isBlank).length_le

theorem length_lt_of_skipBlanks {t rest : Text} {c : Char} (skipped : skipBlanks t = c :: rest) :
    rest.length < t.length := by
  have bound := length_skipBlanks_le t
  rw [skipped, List.length_cons] at bound
  omega

def skipWord : (word : Text) → Text → Except Problem Text
  | [], t => .ok t
  | _ :: _, [] => .error .truncated
  | expected :: word, c :: rest => if c = expected then skipWord word rest else .error .malformed

theorem length_of_skipWord {word t rest : Text} (skipped : skipWord word t = .ok rest) :
    rest.length ≤ t.length := by
  induction word generalizing t with
  | nil =>
    cases skipped
    exact Nat.le_refl _
  | cons expected word ih =>
    cases t with
    | nil => cases skipped
    | cons c others =>
      simp only [skipWord] at skipped
      split at skipped
      · exact Nat.le_succ_of_le (ih skipped)
      · cases skipped

end SearchQuery.Json
