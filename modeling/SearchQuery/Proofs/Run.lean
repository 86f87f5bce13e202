import SearchQuery.Parse

/-! # Runs of a reader

A run is a chain of steps that ends with a reader that is done. What holds of the reader at
the beginning of a text and is kept by every step holds of the reader that is parsed from;
`Reaches.invariant` is the only induction over steps that is needed.

Groups make runs nest. The scope of a text says how its groups are parsed, and by
`run?_scope` they are parsed as the whole query is, one level deeper. `parseAt_induction`
is the induction over levels that goes with it.
-/

namespace SearchQuery

namespace Reader

/-- The second reader comes from the first by steps. -/
inductive Reaches (scope : Scope) (start : Reader) : Reader → Prop where
  | refl : Reaches scope start start
  | step {before after : Reader} : Reaches scope start before → before.mode ≠ .done →
      before.step? scope = some after → Reaches scope start after

namespace Reaches

variable {scope : Scope} {start middle last : Reader}

theorem single (running : start.mode ≠ .done) (ran : start.step? scope = some last) :
    Reaches scope start last := .step .refl running ran

theorem trans (first : Reaches scope start middle) (second : Reaches scope middle last) :
    Reaches scope start last := by
  induction second with
  | refl => exact first
  | step _ running ran ih => exact .step ih running ran

theorem invariant {Inv : Reader → Prop} (begins : Inv start)
    (kept : ∀ before after, Inv before → before.mode ≠ .done →
      before.step? scope = some after → Inv after)
    (reached : Reaches scope start last) : Inv last := by
  induction reached with
  | refl => exact begins
  | step _ running ran ih => exact kept _ _ ih running ran

theorem run?_eq (reached : Reaches scope start last) : start.run? scope = last.run? scope := by
  induction reached with
  | refl => rfl
  | step _ running ran ih => rw [ih, run?_of_step? running ran]

end Reaches

/-- A run that has a result passes through readers up to one that is done. -/
theorem exists_done_of_run? {scope : Scope} {reader : Reader} {parsed : Parsed}
    (ran : reader.run? scope = some parsed) :
    ∃ last, Reaches scope reader last ∧ last.mode = .done ∧ last.parsed = parsed := by
  by_cases finished : reader.mode = .done
  · rw [run?_of_done finished] at ran
    cases ran
    exact ⟨reader, .refl, finished, rfl⟩
  · cases stepped : reader.step? scope with
    | none =>
        rw [run?] at ran
        simp only [finished, ↓reduceDIte] at ran
        split at ran
        · rename_i after ranStep
          rw [stepped] at ranStep
          cases ranStep
        · cases ran
    | some after =>
        have shorter := remaining_lt_of_step? finished stepped
        rw [run?_of_step? finished stepped] at ran
        obtain ⟨last, reached, done, same⟩ := exists_done_of_run? ran
        exact ⟨last, (Reaches.single finished stepped).trans reached, done, same⟩
termination_by reader.remaining

end Reader

/-- The scope of a text that begins at byte `base` of the whole query and lies in `depth`
groups. -/
def Settings.scope (settings : Settings) (depth base : Nat) : Scope where
  settings := settings
  depth := depth
  base := base
  enter? :=
    if depth < settings.maxDepth then
      some fun base body => some (parseAt settings (depth + 1) base body)
    else none

/-- The settings with another limit for groups that lie in each other. -/
def Settings.limitedTo (settings : Settings) (limit : Nat) : Settings :=
  { settings with maxDepth := limit }

theorem enter?_scope_of_lt {settings : Settings} {depth base : Nat}
    (allowed : depth < settings.maxDepth) :
    (settings.scope depth base).enter? =
      some fun base body => some (parseAt settings (depth + 1) base body) := if_pos allowed

theorem enter?_scope_of_le {settings : Settings} {depth base : Nat}
    (tooDeep : settings.maxDepth ≤ depth) : (settings.scope depth base).enter? = none :=
  if_neg (Nat.not_lt.2 tooDeep)

theorem parseWithin?_eq_parseAt (settings : Settings) (depth base : Nat) (text : Text) :
    parseWithin? settings (settings.maxDepth - depth) depth base text =
      some (parseAt settings depth base text) := by
  simp only [parseAt, Option.some_get]

theorem run?_scope (settings : Settings) (depth base : Nat) (text : Text) :
    (Reader.ofText text).run? (settings.scope depth base) =
      some (parseAt settings depth base text) := by
  rw [← parseWithin?_eq_parseAt]
  cases levels : settings.maxDepth - depth with
  | zero =>
      have tooDeep : settings.maxDepth ≤ depth := by omega
      simp only [parseWithin?, Settings.scope, if_neg (Nat.not_lt.2 tooDeep)]
  | succ below =>
      have allowed : depth < settings.maxDepth := by omega
      have inner : settings.maxDepth - (depth + 1) = below := by omega
      simp only [parseWithin?, Settings.scope, if_pos allowed, ← inner, parseWithin?_eq_parseAt]

theorem exists_done_parseAt (settings : Settings) (depth base : Nat) (text : Text) :
    ∃ last, Reader.Reaches (settings.scope depth base) (Reader.ofText text) last ∧
      last.mode = .done ∧ last.parsed = parseAt settings depth base text :=
  Reader.exists_done_of_run? (run?_scope settings depth base text)

theorem Reader.Reaches.parsed_of_done {settings : Settings} {depth base : Nat} {text : Text}
    {reader : Reader} (reached : Reaches (settings.scope depth base) (ofText text) reader)
    (done : reader.mode = .done) : reader.parsed = parseAt settings depth base text := by
  have run := reached.run?_eq
  rw [run?_scope, run?_of_done done] at run
  exact (Option.some.inj run).symm

/-- What is parsed from a text has a property if it has it whenever the bodies of its groups
have it. -/
theorem parseAt_induction {settings : Settings} {motive : Nat → Nat → Text → Parsed → Prop}
    (outer : ∀ depth base text,
      (depth < settings.maxDepth → ∀ base body,
        motive (depth + 1) base body (parseAt settings (depth + 1) base body)) →
      motive depth base text (parseAt settings depth base text))
    (depth base : Nat) (text : Text) : motive depth base text (parseAt settings depth base text) := by
  -- The induction is on the levels that are left below the limit.
  induction levels : settings.maxDepth - depth generalizing depth base text with
  | zero =>
      apply outer
      intro allowed
      omega
  | succ below ih =>
      apply outer
      intro _ base body
      exact ih (depth + 1) base body (by omega)

end SearchQuery
