import Mathlib.Data.List.Basic
import SearchQuery.Term

/-! # Terms on every default field

A term without a field is tried on the default fields. Where the mapping leaves these alone, what
comes of it is what comes of the same text on each of them, put together in their order.
-/

namespace SearchQuery

namespace Settings

variable {settings : Settings}

theorem buildFielded_of_unmapped {field : Text} (unmapped : settings.storedField field = field)
    (raw : Text) :
    let literal := Literal.ofRaw raw
    let checked := settings.checkValue field literal.value
    settings.buildFielded field .auto raw =
      { clause := settings.nest field (.text field checked.1 literal.quoted)
        rejections := checked.2 } := by
  simp only [buildFielded, unmapped, reduceCtorEq, ↓reduceIte]
  rfl

theorem head?_flatMap_rejections (built : Text → BuiltTerm) (fields : List Text) :
    (fields.flatMap fun field => (built field).rejections).head?.map Failure.rejected =
      fields.findSome? fun field => (built field).failure? := by
  induction fields with
  | nil => rfl
  | cons field fields ih =>
      rw [List.flatMap_cons, List.findSome?_cons, List.head?_append, BuiltTerm.failure?, ← ih]
      cases (built field).rejections.head? <;> rfl

end Settings

/-- If the mapping leaves the default fields alone, a term without a field is the aggregate of the
terms on each of them, in their order and as often as they are listed, whatever the match kind. It
refuses what they refuse, so the first failure among them is its own. -/
theorem buildTerm_fans_out (settings : Settings)
    (unmapped : ∀ field ∈ settings.defaultFields, settings.storedField field = field)
    (kind : MatchKind) (raw : Text) :
    let fanned := settings.buildTerm none kind raw
    let single := fun field => settings.buildTerm (some field) .auto raw
    fanned.clause = .bool [] [] (settings.defaultFields.map fun field => (single field).clause) ∧
    fanned.rejections = settings.defaultFields.flatMap (fun field => (single field).rejections) ∧
    fanned.failure? = settings.defaultFields.findSome? fun field => (single field).failure? := by
  intro fanned single
  have rejections : fanned.rejections =
      settings.defaultFields.flatMap fun field => (single field).rejections := by
    simp only [fanned, Settings.buildTerm, Settings.buildDefault, List.flatMap_map]
    refine List.flatMap_congr ?_
    intro field member
    simp only [single, Settings.buildTerm, Settings.buildFielded_of_unmapped (unmapped field member)]
  refine ⟨?_, rejections, ?_⟩
  · simp only [fanned, Settings.buildTerm, Settings.buildDefault, Clauses.toClause, List.map_map]
    congr 1
    refine List.map_congr_left ?_
    intro field member
    simp only [single, Settings.buildTerm, Settings.buildFielded_of_unmapped (unmapped field member)]
    rfl
  · rw [BuiltTerm.failure?, rejections]
    exact Settings.head?_flatMap_rejections single settings.defaultFields

/-- The phrase `"v"` on `a` and twice on `n.b`, which refuses it. -/
theorem buildTerm_fans_out_refused :
    let refuse : ValueCheck := fun _ => .error ['n', 'o']
    let settings : Settings :=
      { defaultFields := [['a'], ['n', '.', 'b'], ['n', '.', 'b']]
        nestedPaths := [['n']]
        fieldMapping := .ofList [(['b'], ['a'])]
        checks := .ofList [(['n', '.', 'b'], refuse)] }
    (∀ field ∈ settings.defaultFields, settings.storedField field = field) ∧
    (settings.buildTerm none (.sigil .regex) ['"', 'v', '"']).clause =
      .bool [] [] [.text ['a'] ['v'] true, .nested ['n'] (.text ['n', '.', 'b'] ['v'] true),
        .nested ['n'] (.text ['n', '.', 'b'] ['v'] true)] ∧
    (settings.buildTerm none (.sigil .regex) ['"', 'v', '"']).failure? =
      some (.rejected ⟨['n', '.', 'b'], ['v'], ['n', 'o']⟩) := by
  intro refuse settings
  have unmapped : ∀ field ∈ settings.defaultFields, settings.storedField field = field := by decide
  obtain ⟨clause, -, failure⟩ :=
    buildTerm_fans_out settings unmapped (.sigil .regex) ['"', 'v', '"']
  exact ⟨unmapped, clause.trans (by decide +kernel), failure.trans (by decide +kernel)⟩

end SearchQuery
