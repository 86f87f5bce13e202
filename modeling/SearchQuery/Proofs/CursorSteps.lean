import Mathlib.Data.List.Induction
import SearchQuery.Proofs.Move

/-! # The positions of a cursor

The steps of a cursor may come in any order, but nothing is committed while the cursor is before its
commit. Then it stands between two characters of its text, and so does its commit. What it gives
back is the character of the last `next`, unless something came since that forgot it; a commit does
not, so giving back can lead to before the commit. `run_induction` is the induction over such steps,
`Consistent` says what each of them keeps, and `LastRead` finds in the steps what is given back.
-/

namespace SearchQuery.Cursor

/-- What can be done with a cursor. -/
inductive Step where
  | next
  | peek
  | backUp
  | commit
  | previous
  | value
  | slice (first last : Nat)
  deriving Repr, DecidableEq

/-- Whether a character that could be given back before the step can be given back after it. -/
def Step.keepsLast : Step → Bool
  | .next | .peek | .backUp => false
  | .commit | .previous | .value | .slice _ _ => true

/-- The cursor after a step. -/
def after (cursor : Cursor) : Step → Cursor
  | .next => cursor.next.2
  | .peek => cursor.peek.2
  | .backUp => cursor.backUp
  | .commit => cursor.commit
  | .previous | .value | .slice _ _ => cursor

/-- The cursor that steps lead to from the beginning of a text. -/
def run (text : Text) (steps : List Step) : Cursor := steps.foldl after (ofText text)

/-- Whether nothing is committed while the cursor is before its commit. -/
def Permitted (text : Text) (steps : List Step) : Prop :=
  ∀ earlier later, steps = earlier ++ .commit :: later →
    (run text earlier).start ≤ (run text earlier).pos

/-- Whether the last of the steps that read a character is the one behind the earlier steps, and
nothing since then forgot it. -/
structure LastRead (text : Text) (steps earlier since : List Step) : Prop where
  split : steps = earlier ++ .next :: since
  read : (run text earlier).next.1.isSome
  kept : ∀ step ∈ since, step.keepsLast

/-- What positions mean, and what the steps do to them, after the steps that led to a cursor. -/
structure Faithful (text : Text) (steps : List Step) (cursor : Cursor) : Prop where
  text_eq : cursor.text = text
  /-- The position cuts the text in two. The characters at the cut are those that `next` and
  `previous?` give, and the commit is at most one character behind the cut. -/
  at_pos : ∃ before rest, text = before ++ rest ∧ Text.byteSize before = cursor.pos ∧
    cursor.next.1 = rest.head? ∧
    cursor.next.2.pos = cursor.pos + Text.byteSize (rest.take 1) ∧
    cursor.previous? = before.getLast? ∧
    cursor.start ≤ cursor.pos + Text.byteSize (rest.take 1)
  at_start : ∃ before rest, text = before ++ rest ∧ Text.byteSize before = cursor.start
  start_next : cursor.next.2.start = cursor.start
  peek : cursor.peek.1 = cursor.next.1 ∧ cursor.peek.2.pos = cursor.pos ∧
    cursor.peek.2.start = cursor.start
  start_backUp : cursor.backUp.start = cursor.start
  backUp_of_read : ∀ earlier since, LastRead text steps earlier since →
    cursor.backUp.pos = (run text earlier).pos
  backUp_of_forgotten : (∀ earlier since, ¬ LastRead text steps earlier since) →
    cursor.backUp.pos = cursor.pos
  commit : cursor.start ≤ cursor.pos →
    cursor.commit.pos = cursor.pos ∧ cursor.commit.start = cursor.pos
  value : cursor.value? = (Text.slice? cursor.start cursor.pos text).map Text.trim
  value_eq_none : cursor.value? = none ↔ cursor.pos < cursor.start
  /-- Only giving back leads to before the commit, and only from the commit itself. -/
  entered : cursor.start ≤ cursor.pos → ∀ step,
    (cursor.after step).pos < (cursor.after step).start →
      step = .backUp ∧ cursor.pos = cursor.start ∧ .commit ∈ steps
  /-- Before the commit only reading leads on, and it leads to the commit. -/
  left : cursor.pos < cursor.start → cursor.next.2.pos = cursor.start ∧
    ∀ step, step ≠ .commit → (cursor.after step).start ≤ (cursor.after step).pos → step = .next

/-! ## Runs -/

section

variable {text : Text} {steps : List Step} {step : Step}

theorem run_concat (text : Text) (steps : List Step) (step : Step) :
    run text (steps ++ [step]) = (run text steps).after step := by
  rw [run, List.foldl_append, List.foldl_cons, List.foldl_nil, run]

theorem Permitted.of_concat (permitted : Permitted text (steps ++ [step])) :
    Permitted text steps := by
  rintro earlier later rfl
  exact permitted earlier (later ++ [step]) (by simp)

theorem permitted_iff : Permitted text steps ↔
    ∀ i < steps.length, steps[i]? = some .commit →
      (run text (steps.take i)).start ≤ (run text (steps.take i)).pos := by
  constructor
  · intro permitted i _ isCommit
    refine permitted (steps.take i) (steps.drop (i + 1)) ?_
    obtain ⟨bound, isCommit⟩ := List.getElem?_eq_some_iff.1 isCommit
    rw [← isCommit, List.getElem_cons_drop, List.take_append_drop]
  · rintro permitted earlier later rfl
    simpa using permitted earlier.length (by simp) (by simp)

instance : Decidable (Permitted text steps) := decidable_of_iff _ permitted_iff.symm

theorem Permitted.start_le_pos (permitted : Permitted text (steps ++ [step]))
    (isCommit : step = .commit) : (run text steps).start ≤ (run text steps).pos :=
  permitted steps [] (by rw [isCommit])

/-- What holds at the beginning of a text and is kept by every step that is permitted holds of the
cursor that the steps lead to. -/
theorem run_induction {motive : List Step → Cursor → Prop} (begins : motive [] (ofText text))
    (kept : ∀ steps step, Permitted text (steps ++ [step]) → motive steps (run text steps) →
      motive (steps ++ [step]) ((run text steps).after step))
    (permitted : Permitted text steps) : motive steps (run text steps) := by
  induction steps using List.reverseRecOn with
  | nil => exact begins
  | append_singleton steps step ih =>
      rw [run_concat]
      exact kept steps step permitted (ih permitted.of_concat)

end

/-! ## What every step keeps -/

/-- The text before the cursor. -/
def front (cursor : Cursor) : Text := cursor.committed.reverse ++ (cursor.span?.getD []).reverse

section

variable {cursor : Cursor} {text : Text}

theorem text_eq_front_append (cursor : Cursor) : cursor.text = cursor.front ++ cursor.rest := rfl

@[simp] theorem byteSize_front (cursor : Cursor) : Text.byteSize cursor.front = cursor.pos := by
  simp [front, pos]

theorem previous?_eq (cursor : Cursor) : cursor.previous? = cursor.front.getLast? := by
  obtain ⟨committed, span, rest, canBackUp⟩ := cursor
  rcases span with _ | _ | ⟨c, span⟩ <;> simp [previous?, front]

theorem pos_next (cursor : Cursor) :
    cursor.next.2.pos = cursor.pos + Text.byteSize (cursor.rest.take 1) := by
  obtain ⟨committed, span, rest, canBackUp⟩ := cursor
  cases rest <;> cases span <;> simp [next, pos] <;> omega

theorem start_next (cursor : Cursor) : cursor.next.2.start = cursor.start := by
  obtain ⟨committed, span, rest, canBackUp⟩ := cursor
  cases rest with
  | nil => cases span <;> rfl
  | cons c rest =>
      cases span with
      | some span => rfl
      | none => simp [next, start, Nat.add_comm]

theorem start_peek (cursor : Cursor) : cursor.peek.2.start = cursor.start := by
  rw [peek_eq]
  rfl

theorem pos_peek (cursor : Cursor) : cursor.peek.2.pos = cursor.pos := by
  rw [peek_eq]
  rfl

theorem start_backUp (cursor : Cursor) : cursor.backUp.start = cursor.start := by
  unfold backUp
  split <;> simp_all [start, Nat.add_comm]

theorem pos_backUp_of_not_canBackUp (forgotten : cursor.canBackUp = false) :
    cursor.backUp.pos = cursor.pos := by
  simp [backUp, forgotten, pos]

theorem not_canBackUp_backUp (cursor : Cursor) : cursor.backUp.canBackUp = false := by
  unfold backUp
  split <;> rfl

theorem pos_backUp_commit (behind : cursor.span?.isSome) :
    cursor.commit.backUp.pos = cursor.backUp.pos := by
  obtain ⟨committed, span, rest, canBackUp⟩ := cursor
  obtain ⟨span, rfl⟩ := Option.isSome_iff_exists.1 behind
  cases canBackUp with
  | false => simp [commit, backUp, pos]; omega
  | true => cases span <;> simp [commit, backUp, pos]; omega

/-- A cursor of the text that is before its commit only while there is a character to read, and that
cannot give back anything then. -/
structure Consistent (text : Text) (cursor : Cursor) : Prop where
  text_eq : cursor.text = text
  ahead : cursor.span? = none → cursor.rest ≠ [] ∧ cursor.canBackUp = false

theorem Consistent.pos_lt_start_iff (consistent : Consistent text cursor) :
    cursor.pos < cursor.start ↔ cursor.span? = none := by
  obtain ⟨committed, span, rest, canBackUp⟩ := cursor
  cases span with
  | some span => simp [pos, start]
  | none =>
      obtain ⟨c, rest, rfl⟩ := List.exists_cons_of_ne_nil (consistent.ahead rfl).1
      simpa [pos, start] using c.utf8Size_pos

theorem Consistent.isSome_span? (consistent : Consistent text cursor)
    (behind : cursor.start ≤ cursor.pos) : cursor.span?.isSome := by
  rw [Option.isSome_iff_ne_none, ne_eq, ← consistent.pos_lt_start_iff]
  exact Nat.not_lt.2 behind

theorem consistent_ofText (text : Text) : Consistent text (ofText text) := ⟨rfl, nofun⟩

theorem consistent_next (consistent : Consistent text cursor) : Consistent text cursor.next.2 := by
  refine ⟨by rw [text_next, consistent.text_eq], ?_⟩
  have ahead := consistent.ahead
  obtain ⟨committed, span, rest, canBackUp⟩ := cursor
  cases rest <;> cases span <;> simp_all [next]

theorem consistent_backUp (consistent : Consistent text cursor) :
    Consistent text cursor.backUp := by
  refine ⟨by rw [text_backUp, consistent.text_eq], ?_⟩
  have ahead := consistent.ahead
  unfold backUp
  split <;> simp_all

theorem consistent_after (consistent : Consistent text cursor) {step : Step}
    (permitted : step = .commit → cursor.start ≤ cursor.pos) :
    Consistent text (cursor.after step) := by
  cases step with
  | next => exact consistent_next consistent
  | peek => exact consistent_backUp (consistent_next consistent)
  | backUp => exact consistent_backUp consistent
  | commit => exact ⟨by rw [after, text_commit, consistent.text_eq], nofun⟩
  | previous | value | slice => exact consistent

theorem consistent_run {steps : List Step} (permitted : Permitted text steps) :
    Consistent text (run text steps) := by
  refine run_induction (motive := fun _ cursor => Consistent text cursor)
    (consistent_ofText text) ?_ permitted
  exact fun _ _ permitted consistent => consistent_after consistent permitted.start_le_pos

end

/-! ## What is given back -/

section

variable {text : Text} {steps earlier since : List Step} {step : Step}

theorem LastRead.concat (lastRead : LastRead text steps earlier since) (keeps : step.keepsLast) :
    LastRead text (steps ++ [step]) earlier (since ++ [step]) where
  split := by simp [lastRead.split]
  read := lastRead.read
  kept := List.forall_mem_append.2 ⟨lastRead.kept, List.forall_mem_singleton.2 keeps⟩

theorem LastRead.of_concat (lastRead : LastRead text (steps ++ [step]) earlier since) :
    step = .next ∧ earlier = steps ∨
      step.keepsLast ∧ ∃ since, LastRead text steps earlier since := by
  obtain ⟨split, read, kept⟩ := lastRead
  rcases List.eq_nil_or_concat since with rfl | ⟨since, last, rfl⟩
  · obtain ⟨same, isLast⟩ := List.append_inj' split rfl
    exact .inl ⟨List.singleton_inj.1 isLast, same.symm⟩
  · rw [List.concat_eq_append] at split kept
    obtain ⟨keptBefore, keeps⟩ := List.forall_mem_append.1 kept
    rw [← List.cons_append, ← List.append_assoc] at split
    obtain ⟨same, isLast⟩ := List.append_inj' split rfl
    rw [List.singleton_inj.1 isLast]
    exact .inr ⟨keeps last List.mem_cons_self, since, same, read, keptBefore⟩

/-- What a cursor can give back was read by the steps that led to it. -/
theorem exists_lastRead (permitted : Permitted text steps)
    (canBackUp : (run text steps).canBackUp) :
    ∃ earlier since, LastRead text steps earlier since := by
  refine run_induction (motive := fun steps cursor => cursor.canBackUp →
    ∃ earlier since, LastRead text steps earlier since) nofun ?_ permitted canBackUp
  intro steps step _ ih canBackUp
  cases step with
  | next =>
      refine ⟨steps, [], rfl, ?_, nofun⟩
      cases atEnd : (run text steps).rest with
      | nil => simp [after, next, atEnd] at canBackUp
      | cons c rest => rw [next_eq, atEnd]; rfl
  | peek => simp [after, peek_eq] at canBackUp
  | backUp =>
      rw [after, not_canBackUp_backUp] at canBackUp
      cases canBackUp
  | commit | previous | value | slice =>
      obtain ⟨earlier, since, lastRead⟩ := ih canBackUp
      exact ⟨earlier, _, lastRead.concat rfl⟩

theorem LastRead.pos_backUp (permitted : Permitted text steps)
    (lastRead : LastRead text steps earlier since) :
    (run text steps).backUp.pos = (run text earlier).pos := by
  refine run_induction (motive := fun steps cursor => ∀ earlier since,
    LastRead text steps earlier since → cursor.backUp.pos = (run text earlier).pos)
    ?_ ?_ permitted earlier since lastRead
  · rintro earlier since ⟨split, -, -⟩
    simp at split
  · intro steps step permitted ih earlier since lastRead
    rcases lastRead.of_concat with ⟨rfl, rfl⟩ | ⟨keeps, since, lastRead⟩
    · have looked : (run text earlier).next.2.backUp =
          { run text earlier with canBackUp := false } :=
        congrArg Prod.snd (peek_eq (run text earlier))
      rw [after, looked]
      rfl
    · have back := ih earlier since lastRead
      cases step with
      | next | peek | backUp => cases keeps
      | commit =>
          have consistent := consistent_run permitted.of_concat
          rw [after, pos_backUp_commit (consistent.isSome_span? (permitted.start_le_pos rfl)), back]
      | previous | value | slice => exact back

theorem start_after (cursor : Cursor) (notCommit : step ≠ .commit) :
    (cursor.after step).start = cursor.start := by
  cases step with
  | next => exact start_next cursor
  | peek => exact start_peek cursor
  | backUp => exact start_backUp cursor
  | commit => exact absurd rfl notCommit
  | previous | value | slice => rfl

theorem start_run_eq_zero (notCommit : .commit ∉ steps) : (run text steps).start = 0 := by
  induction steps using List.reverseRecOn with
  | nil => rfl
  | append_singleton steps step ih =>
      rw [List.mem_append, not_or, List.mem_singleton] at notCommit
      rw [run_concat, start_after _ (Ne.symm notCommit.2), ih notCommit.1]

end

/-! ## Being before the commit -/

section

variable {cursor : Cursor} {text : Text}

theorem pos_eq_start_of_backUp (behind : cursor.span?.isSome)
    (before : cursor.backUp.pos < cursor.start) : cursor.pos = cursor.start := by
  obtain ⟨committed, span, rest, canBackUp⟩ := cursor
  obtain ⟨span, rfl⟩ := Option.isSome_iff_exists.1 behind
  cases span with
  | nil => simp [pos, start]
  | cons c span =>
      cases canBackUp <;>
        · simp only [backUp, pos, start] at before
          omega

theorem Consistent.eq_backUp_of_before (consistent : Consistent text cursor) {step : Step}
    (behind : cursor.start ≤ cursor.pos)
    (before : (cursor.after step).pos < (cursor.after step).start) :
    step = .backUp ∧ cursor.pos = cursor.start := by
  have isSome := consistent.isSome_span? behind
  cases step with
  | next =>
      rw [after, pos_next, start_next] at before
      omega
  | peek =>
      rw [after, pos_peek, start_peek] at before
      omega
  | backUp =>
      rw [after, start_backUp] at before
      exact ⟨rfl, pos_eq_start_of_backUp isSome before⟩
  | commit =>
      have behindCommit : cursor.commit.start ≤ cursor.commit.pos := Nat.le_add_right _ _
      exact absurd behindCommit (Nat.not_le.2 before)
  | previous | value | slice => exact absurd behind (Nat.not_le.2 before)

theorem Consistent.eq_next_of_behind (consistent : Consistent text cursor) {step : Step}
    (before : cursor.pos < cursor.start) (notCommit : step ≠ .commit)
    (behind : (cursor.after step).start ≤ (cursor.after step).pos) : step = .next := by
  have forgotten := (consistent.ahead (consistent.pos_lt_start_iff.1 before)).2
  rw [start_after cursor notCommit] at behind
  cases step with
  | next => rfl
  | peek =>
      rw [after, pos_peek] at behind
      omega
  | backUp =>
      rw [after, pos_backUp_of_not_canBackUp forgotten] at behind
      omega
  | commit => exact absurd rfl notCommit
  | previous | value | slice => exact absurd before (Nat.not_lt.2 behind)

theorem Consistent.start_eq_of_before (consistent : Consistent text cursor)
    (before : cursor.pos < cursor.start) :
    cursor.start = cursor.pos + Text.byteSize (cursor.rest.take 1) := by
  have noSpan := consistent.pos_lt_start_iff.1 before
  simp [start, pos, noSpan]

theorem Consistent.exists_at_start (consistent : Consistent text cursor) :
    ∃ before rest, text = before ++ rest ∧ Text.byteSize before = cursor.start := by
  rw [← consistent.text_eq]
  obtain ⟨committed, span, rest, canBackUp⟩ := cursor
  cases span with
  | some span =>
      exact ⟨committed.reverse, span.reverse ++ rest, by simp [Cursor.text], by simp [start]⟩
  | none =>
      refine ⟨committed.reverse ++ rest.take 1, rest.drop 1, ?_, by simp [start]⟩
      rw [List.append_assoc, List.take_append_drop]
      simp [Cursor.text]

/-- The value is the text from the commit to the cursor, if they are in this order. -/
theorem Consistent.value?_eq (consistent : Consistent text cursor) :
    cursor.value? = (Text.slice? cursor.start cursor.pos text).map Text.trim := by
  have isBefore := consistent.pos_lt_start_iff
  rw [← consistent.text_eq]
  obtain ⟨committed, span, rest, canBackUp⟩ := cursor
  cases span with
  | some span =>
      have slice := Text.slice?_append committed.reverse span.reverse rest
      simp only [Text.byteSize_reverse, List.append_assoc] at slice
      simp [value?, spanText?, Cursor.text, start, pos, slice]
  | none =>
      have outOfOrder := Nat.not_le.2 (isBefore.2 rfl)
      simp [value?, spanText?, Text.slice?, outOfOrder]

theorem Consistent.value?_eq_none_iff (consistent : Consistent text cursor) :
    cursor.value? = none ↔ cursor.pos < cursor.start := by
  simp [consistent.pos_lt_start_iff, value?, spanText?]

end

/-- As long as nothing is committed before the last commit, all positions of a cursor lie between
characters of its text, reading gives the character there, giving back undoes the last reading if
nothing forgot it, and there is a value except right before a commit. -/
theorem run_faithful (text : Text) (steps : List Step) (permitted : Permitted text steps) :
    Faithful text steps (run text steps) := by
  have consistent := consistent_run permitted
  generalize atCursor : run text steps = cursor at consistent
  refine
    { text_eq := consistent.text_eq, at_pos := ?_, at_start := consistent.exists_at_start,
      start_next := start_next cursor, peek := ?_, start_backUp := start_backUp cursor,
      backUp_of_read := ?_, backUp_of_forgotten := ?_, commit := ?_,
      value := consistent.value?_eq, value_eq_none := consistent.value?_eq_none_iff,
      entered := ?_, left := ?_ }
  · refine ⟨cursor.front, cursor.rest, consistent.text_eq.symm.trans cursor.text_eq_front_append,
      cursor.byteSize_front, congrArg Prod.fst cursor.next_eq, cursor.pos_next,
      cursor.previous?_eq, ?_⟩
    rcases Nat.lt_or_ge cursor.pos cursor.start with before | behind
    · exact Nat.le_of_eq (consistent.start_eq_of_before before)
    · exact Nat.le_trans behind (Nat.le_add_right _ _)
  · exact ⟨rfl, pos_peek cursor, start_peek cursor⟩
  · intro earlier since lastRead
    rw [← atCursor]
    exact lastRead.pos_backUp permitted
  · intro forgotten
    refine pos_backUp_of_not_canBackUp (Bool.eq_false_iff.2 ?_)
    intro canBackUp
    rw [← atCursor] at canBackUp
    obtain ⟨earlier, since, lastRead⟩ := exists_lastRead permitted canBackUp
    exact forgotten earlier since lastRead
  · intro behind
    obtain ⟨span, isSpan⟩ := Option.isSome_iff_exists.1 (consistent.isSome_span? behind)
    simp [commit, pos, start, isSpan, Nat.add_comm]
  · intro behind step before
    obtain ⟨isBackUp, same⟩ := consistent.eq_backUp_of_before behind before
    refine ⟨isBackUp, same, ?_⟩
    by_contra notCommit
    have atBeginning : cursor.start = 0 := atCursor ▸ start_run_eq_zero notCommit
    rw [isBackUp, after, start_backUp, atBeginning] at before
    exact Nat.not_lt_zero _ before
  · intro before
    refine ⟨?_, fun step => consistent.eq_next_of_behind before⟩
    rw [pos_next, ← consistent.start_eq_of_before before]

/-- Giving back `é` behind a commit leads to before it, where there is no value; `é` is read again
from there, and `日` follows. -/
theorem run_faithful_before_commit :
    let text : Text := ['é', '日']
    let steps : List Step := [.next, .commit, .backUp]
    Permitted text steps ∧ Faithful text steps (run text steps) ∧
    (run text [.next, .commit]).backUp.pos = (run text []).pos ∧
    (run text steps).pos = 0 ∧ (run text steps).start = 2 ∧ (run text steps).value? = none ∧
    (run text steps).next.1 = some 'é' ∧ (run text (steps ++ [.next])).next.1 = some '日' := by
  intro text steps
  have permitted : Permitted text steps := by decide
  have faithful := run_faithful text steps permitted
  have back := (run_faithful text [.next, .commit] (by decide)).backUp_of_read [] [.commit]
    ⟨rfl, by decide, by decide⟩
  exact ⟨permitted, faithful, back, by decide, by decide, faithful.value_eq_none.2 (by decide),
    by decide, by decide⟩

end SearchQuery.Cursor
