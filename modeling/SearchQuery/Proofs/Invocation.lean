import SearchQuery.Proofs.Move

/-! # The texts that a parse reads

A parse reads the whole query and the body of every group that may be entered, each with a
reader of its own. `Invoked` says which texts these are, how many groups each lies in and
where in the query it begins. Invariants of the readers of one text come from
`exists_done_of_moves`.
-/

namespace SearchQuery

namespace Reader

/-- The group that the next step closes: where in the query its body begins, and the body. -/
def closing? (base : Nat) (reader : Reader) : Option (Nat × Text) :=
  match reader.mode, reader.cursor.rest with
  | .group { unclosed := 1, quote := none, .. }, ')' :: _ =>
    reader.cursor.spanText?.map fun body => (base + reader.cursor.start, body)
  | _, _ => none

theorem closing?_eq_some_iff {base first : Nat} {reader : Reader} {body : Text} :
    reader.closing? base = some (first, body) ↔
      ∃ group, reader.mode = .group group ∧ group.Closes ')' ∧
        reader.cursor.rest.head? = some ')' ∧ reader.cursor.spanText? = some body ∧
        first = base + reader.cursor.start := by
  constructor
  · intro closing
    simp only [closing?] at closing
    split at closing
    · rename_i offset occur rest mode atCursor
      simp only [Option.map_eq_some_iff, Prod.mk.injEq] at closing
      obtain ⟨_, known, rfl, rfl⟩ := closing
      exact ⟨_, mode, ⟨rfl, rfl, rfl⟩, by rw [atCursor]; rfl, known, rfl⟩
    · cases closing
  · rintro ⟨⟨occur, offset, unclosed, quote⟩, mode, ⟨-, rfl, rfl⟩, atCursor, known, rfl⟩
    obtain ⟨rest, atCursor⟩ := List.head?_eq_some_iff.1 atCursor
    simp only [closing?, mode, atCursor, known, Option.map_some]

/-- Only the body of the group that it closes is given to the parser of groups by a step. -/
theorem step?_congr_enter {settings : Settings} {depth base : Nat} {reader : Reader}
    {enter enter' : Nat → Text → Option Parsed}
    (same : ∀ first body, reader.closing? base = some (first, body) →
      enter first body = enter' first body) (behind : reader.cursor.span?.isSome) :
    reader.step? ⟨settings, depth, base, some enter⟩ =
      reader.step? ⟨settings, depth, base, some enter'⟩ := by
  cases mode : reader.mode with
  | between | term | done => simp only [step?, mode] <;> rfl
  | group group =>
      simp only [step?, mode]
      obtain ⟨span, known⟩ := Option.isSome_iff_exists.1 behind
      by_cases closing : group.Closes ')' ∧ reader.cursor.rest.head? = some ')'
      · obtain ⟨closes, atCursor⟩ := closing
        have spanText : reader.cursor.spanText? = some span.reverse := by
          rw [Cursor.spanText?, known, Option.map_some]
        have entered := same _ _ (closing?_eq_some_iff.2
          ⟨group, mode, closes, atCursor, spanText, rfl⟩)
        obtain ⟨-, unquoted, last⟩ := closes
        simp only [stepGroup?_eq, atCursor, unquoted, last, Option.isSome_none,
          Bool.false_eq_true, ↓reduceIte, endGroup?_eq atCursor spanText, entered]
        rfl
      · simp only [stepGroup?_eq]
        split
        · rfl
        · rfl
        · rfl
        · rename_i atCursor
          obtain ⟨occur, offset, unclosed, quote⟩ := group
          cases quote with
          | some mark => rfl
          | none =>
              rcases unclosed with _ | _ | unclosed
              · rfl
              · exact absurd ⟨⟨rfl, rfl, rfl⟩, atCursor⟩ closing
              · rfl
        · rfl

end Reader

section

variable {settings : Settings} {depth base : Nat} {text : Text}

theorem isSome_enter_scope (enter : Nat → Text → Option Parsed)
    (allowed : (settings.scope depth base).enter? = some enter) (first : Nat) (body : Text) :
    (enter first body).isSome := by
  simp only [Settings.scope, Option.ite_none_right_eq_some, Option.some.injEq] at allowed
  obtain ⟨-, rfl⟩ := allowed
  rfl

theorem eq_parseAt_of_enter {enter : Nat → Text → Option Parsed} {first : Nat} {body : Text}
    {inner : Parsed} (allowed : (settings.scope depth base).enter? = some enter)
    (entered : enter first body = some inner) :
    depth < settings.maxDepth ∧ inner = parseAt settings (depth + 1) first body := by
  simp only [Settings.scope, Option.ite_none_right_eq_some, Option.some.injEq] at allowed
  obtain ⟨within, rfl⟩ := allowed
  cases entered
  exact ⟨within, rfl⟩

namespace Reader

theorem Move.sound {before after : Reader} (sound : before.Sound)
    (move : Move (settings.scope depth base) before after) : after.Sound := by
  obtain ⟨other, ran, soundOther⟩ := exists_step? isSome_enter_scope sound
  cases ran.symm.trans (step?_of_move move)
  exact soundOther

theorem Reaches.sound {reader : Reader}
    (reached : Reaches (settings.scope depth base) (ofText text) reader) : reader.Sound := by
  apply reached.invariant (sound_ofText text)
  intro before after sound _ ran
  obtain ⟨other, ranOther, soundOther⟩ := exists_step? isSome_enter_scope sound
  cases ran.symm.trans ranOther
  exact soundOther

/-- What holds at the beginning of a text and is kept by the moves holds in a whole run. -/
theorem Reaches.invariant_of_moves {Inv : Reader → Prop} (begins : Inv (ofText text))
    (kept : ∀ before after, before.Sound → Inv before →
      Move (settings.scope depth base) before after → Inv after) {reader : Reader}
    (reached : Reaches (settings.scope depth base) (ofText text) reader) : Inv reader := by
  induction reached with
  | refl => exact begins
  | step reached running ran ih =>
      have sound := reached.sound
      exact kept _ _ sound ih (move_of_step? isSome_enter_scope sound running ran)

end Reader

theorem exists_done_of_moves {Inv : Reader → Prop} (begins : Inv (Reader.ofText text))
    (kept : ∀ before after, before.Sound → Inv before →
      Reader.Move (settings.scope depth base) before after → Inv after) :
    ∃ last, Inv last ∧ last.mode = .done ∧ last.parsed = parseAt settings depth base text := by
  obtain ⟨last, reached, finished, same⟩ := exists_done_parseAt settings depth base text
  exact ⟨last, reached.invariant_of_moves begins kept, finished, same⟩

end

theorem exists_last_move (settings : Settings) (depth base : Nat) (text : Text) :
    ∃ before last, Reader.Reaches (settings.scope depth base) (.ofText text) before ∧
      Reader.Move (settings.scope depth base) before last ∧ last.mode = .done ∧
      last.parsed = parseAt settings depth base text := by
  obtain ⟨last, reached, done, same⟩ := exists_done_parseAt settings depth base text
  cases reached with
  | refl => cases done
  | step reached running ran =>
      exact ⟨_, last, reached, Reader.move_of_step? isSome_enter_scope reached.sound running ran,
        done, same⟩

/-- The texts that a parse of the query reads, each with the groups that it lies in and the
byte of the query at which it begins. -/
inductive Invoked (settings : Settings) (query : Text) : (depth base : Nat) → Text → Prop where
  | outer : Invoked settings query 0 0 query
  | inner {depth base first : Nat} {text body : Text} {reader : Reader} :
      Invoked settings query depth base text → depth < settings.maxDepth →
      Reader.Reaches (settings.scope depth base) (.ofText text) reader →
      reader.closing? base = some (first, body) → Invoked settings query (depth + 1) first body

end SearchQuery
