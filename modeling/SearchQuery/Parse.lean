import SearchQuery.Reader.Safety

/-! # Parsing a query

Parsing a text means stepping a reader over it until it is done. The body of a group is a
text of its own, one level deeper, and is parsed in the same way; the levels that are left
below the limit of the settings are what the recursion counts. Every text has a result,
because every step of a reader has one.
-/

namespace SearchQuery

namespace Reader

/-- Steps a reader until it is done. There is no result if a step has none. -/
def run? (scope : Scope) (reader : Reader) : Option Parsed :=
  if _running : reader.mode = .done then some reader.parsed
  else
    match _ran : reader.step? scope with
    | some after => after.run? scope
    | none => none
termination_by reader.remaining
decreasing_by exact remaining_lt_of_step? _running _ran

theorem run?_of_done {scope : Scope} {reader : Reader} (finished : reader.mode = .done) :
    reader.run? scope = some reader.parsed := by
  rw [run?]
  simp [finished]

theorem run?_of_step? {scope : Scope} {before after : Reader} (running : before.mode ≠ .done)
    (ran : before.step? scope = some after) : before.run? scope = after.run? scope := by
  rw [run?]
  simp only [running, ↓reduceDIte]
  split
  · rename_i next ranNext
    rw [ran] at ranNext
    cases ranNext
    rfl
  · rename_i absent
    rw [ran] at absent
    cases absent

theorem isSome_run? {scope : Scope}
    (canEnter : ∀ enter, scope.enter? = some enter → ∀ base body, (enter base body).isSome)
    {reader : Reader} (sound : reader.Sound) : (reader.run? scope).isSome := by
  by_cases finished : reader.mode = .done
  · simp [run?_of_done finished]
  · obtain ⟨after, ran, soundAfter⟩ := exists_step? canEnter sound
    have shorter := remaining_lt_of_step? finished ran
    rw [run?_of_step? finished ran]
    exact isSome_run? canEnter soundAfter
termination_by reader.remaining

end Reader

/-- Parses a text that begins at byte `base` of the whole query and lies in `depth` groups,
with `levels` more levels of groups allowed. -/
def parseWithin? (settings : Settings) :
    (levels : Nat) → (depth base : Nat) → (text : Text) → Option Parsed
  | 0, depth, base, text => (Reader.ofText text).run? ⟨settings, depth, base, none⟩
  | levels + 1, depth, base, text =>
    (Reader.ofText text).run?
      ⟨settings, depth, base, some fun base body =>
        parseWithin? settings levels (depth + 1) base body⟩

theorem isSome_parseWithin? (settings : Settings) (levels depth base : Nat) (text : Text) :
    (parseWithin? settings levels depth base text).isSome := by
  induction levels generalizing depth base text with
  | zero => exact Reader.isSome_run? (by simp) (Reader.sound_ofText text)
  | succ levels ih =>
    refine Reader.isSome_run? ?_ (Reader.sound_ofText text)
    intro enter entering base body
    cases entering
    exact ih (depth + 1) base body

/-- Parses a text that begins at byte `base` of the whole query and lies in `depth`
groups. -/
def parseAt (settings : Settings) (depth base : Nat) (text : Text) : Parsed :=
  (parseWithin? settings (settings.maxDepth - depth) depth base text).get
    (isSome_parseWithin? settings _ depth base text)

/-- Parses a whole query. -/
def parse (settings : Settings) (query : Text) : Parsed := parseAt settings 0 0 query

end SearchQuery
