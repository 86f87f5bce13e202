import SearchQuery.Proofs.Invocation

/-! # Positions in the query

A cursor that is only advanced, looked ahead with, committed, and sent back right after it
was advanced stays where its positions mean something: `Lawful` closes the beginning of a
text under these operations, and `placed_of_lawful` says what holds of every cursor among
them. All cursors of a parse are lawful, so none of its slices is out of order, outside its
text or inside a character, and no text that it reads reaches beyond the query.
-/

namespace SearchQuery

namespace Cursor

/-- The bytes of the character that would be given back. -/
def width (cursor : Cursor) : Nat :=
  if cursor.canBackUp then (cursor.previous?.map Char.utf8Size).getD 0 else 0

/-- The cursors that come from the beginning of a text when nothing is given back but the
character just read. -/
inductive Lawful (text : Text) : Cursor → Prop where
  | ofText : Lawful text (.ofText text)
  | next {cursor : Cursor} : Lawful text cursor → Lawful text cursor.next.2
  | giveBack {cursor : Cursor} : Lawful text cursor → Lawful text cursor.next.2.backUp
  | commit {cursor : Cursor} : Lawful text cursor → Lawful text cursor.commit

/-- A cursor whose positions are those of characters of the text, in order. -/
structure Placed (text : Text) (cursor : Cursor) : Prop where
  start_le_pos : cursor.start ≤ cursor.pos
  pos_le_byteSize : cursor.pos ≤ Text.byteSize text
  start_boundary : ∃ before, before <+: text ∧ Text.byteSize before = cursor.start
  pos_boundary : ∃ before, before <+: text ∧ Text.byteSize before = cursor.pos
  span : ∃ span, cursor.spanText? = some span ∧
    Text.slice? cursor.start cursor.pos text = some span
  behind : ∃ before, Text.slice? 0 cursor.pos text = some before ∧
    before.getLast? = cursor.previous?
  rest : Text.slice? cursor.pos (Text.byteSize text) text = some cursor.rest
  width_le_pos : cursor.width ≤ cursor.pos
  pos_backUp : cursor.backUp.pos = cursor.pos - cursor.width

theorem text_of_lawful {text : Text} {cursor : Cursor} (lawful : Lawful text cursor) :
    cursor.text = text := by
  induction lawful with
  | ofText => rfl
  | next _ ih => rw [text_next, ih]
  | giveBack _ ih => rw [text_backUp, text_next, ih]
  | commit _ ih => rw [text_commit, ih]

theorem isSome_span?_of_lawful {text : Text} {cursor : Cursor} (lawful : Lawful text cursor) :
    cursor.span?.isSome := by
  induction lawful with
  | ofText => rfl
  | next _ ih => exact isSome_span?_next ih
  | @giveBack cursor _ ih =>
      have looked : cursor.next.2.backUp = { cursor with canBackUp := false } :=
        congrArg Prod.snd (peek_eq cursor)
      rw [looked]
      exact ih
  | commit => rfl

theorem pos_backUp_add_width {cursor : Cursor} (behind : cursor.span?.isSome) :
    cursor.backUp.pos + cursor.width = cursor.pos := by
  obtain ⟨committed, span, rest, canBackUp⟩ := cursor
  obtain ⟨span, rfl⟩ := Option.isSome_iff_exists.1 behind
  cases canBackUp with
  | false => simp [backUp, width, pos]
  | true =>
      cases span with
      | cons c span =>
          simp only [backUp, width, previous?, pos, ↓reduceIte, Option.map_some, Option.getD_some,
            Text.byteSize_cons]
          omega
      | nil =>
          cases committed with
          | nil => simp [backUp, width, previous?, pos]
          | cons c committed =>
              simp only [backUp, width, previous?, pos, ↓reduceIte, List.head?_cons,
                Option.map_some, Option.getD_some, Option.getD_none, Text.byteSize_cons,
                Text.byteSize_nil]
              omega

theorem placed_of_lawful {text : Text} {cursor : Cursor} (lawful : Lawful text cursor) :
    Placed text cursor := by
  have whole := text_of_lawful lawful
  have behind := isSome_span?_of_lawful lawful
  have back := pos_backUp_add_width behind
  obtain ⟨committed, old, rest, canBackUp⟩ := cursor
  obtain ⟨span, rfl⟩ := Option.isSome_iff_exists.1 behind
  simp only [Cursor.text, Option.getD_some] at whole
  subst whole
  have bytes : ∀ before middle after : Text, Text.slice? (Text.byteSize before)
      (Text.byteSize before + Text.byteSize middle) (before ++ middle ++ after) = some middle :=
    Text.slice?_append
  refine
    { start_le_pos := ?_, pos_le_byteSize := ?_, start_boundary := ?_, pos_boundary := ?_,
      span := ?_, behind := ?_, rest := ?_, width_le_pos := by omega, pos_backUp := by omega }
  · simp [start, pos]
  · simp [pos]
  · exact ⟨committed.reverse, by simp, by simp [start]⟩
  · exact ⟨committed.reverse ++ span.reverse, List.prefix_append _ _, by simp [pos]⟩
  · refine ⟨span.reverse, rfl, ?_⟩
    simpa [start, pos] using bytes committed.reverse span.reverse rest
  · refine ⟨committed.reverse ++ span.reverse, ?_, ?_⟩
    · simpa [pos] using bytes [] (committed.reverse ++ span.reverse) rest
    · cases span <;> simp [previous?]
  · simpa [pos, Nat.add_assoc] using bytes (committed.reverse ++ span.reverse) rest []

theorem text_of_spanText? {cursor : Cursor} {span : Text} (known : cursor.spanText? = some span) :
    cursor.text = cursor.committed.reverse ++ span ++ cursor.rest := by
  obtain ⟨old, isOld, rfl⟩ := Option.map_eq_some_iff.1 known
  rw [text, isOld, Option.getD_some]

theorem exists_text_eq_of_spanText? {cursor : Cursor} {span : Text}
    (known : cursor.spanText? = some span) :
    ∃ before, cursor.text = before ++ span ++ cursor.rest ∧
      Text.byteSize before = cursor.start := by
  obtain ⟨old, isOld, -⟩ := Option.map_eq_some_iff.1 known
  exact ⟨cursor.committed.reverse, text_of_spanText? known, by simp [start, isOld]⟩

theorem lawful_still {text : Text} {cursor : Cursor} (lawful : Lawful text cursor) :
    Lawful text { cursor with canBackUp := false } := by
  have looked : cursor.next.2.backUp = { cursor with canBackUp := false } :=
    congrArg Prod.snd (peek_eq cursor)
  rw [← looked]
  exact .giveBack lawful

end Cursor

namespace Reader

open Cursor (Lawful)

theorem lawful_sigilled {scope : Scope} {text : Text} {reader : Reader}
    (lawful : Lawful text reader.cursor) : Lawful text (reader.sigilled scope).cursor := by
  simp only [sigilled]
  split
  · exact Cursor.lawful_still lawful
  · exact .commit (Cursor.lawful_still lawful)
  · exact .commit (.next lawful)

theorem lawful_of_move {scope : Scope} {text : Text} {before after : Reader}
    (lawful : Lawful text before.cursor) (move : Move scope before after) :
    Lawful text after.cursor := by
  have still := Cursor.lawful_still lawful
  cases move with
  | finish | content | inside | unclosed => exact .next lawful
  | escape => exact .next (.next lawful)
  | mark | openGroup | endTerm => exact .commit (.next lawful)
  | beginTerm | tooDeep | failInside => exact still
  | closeGroup => exact .commit (.next still)
  | @name c name span named mode atCursor delimiter outside noField value nonempty spot known =>
      have spotLawful : Lawful text named.cursor := by
        rw [spot]
        split
        · exact .next lawful
        · exact still
      exact lawful_sigilled (.commit spotLawful)

theorem Reaches.lawful {settings : Settings} {depth base : Nat} {text : Text} {reader : Reader}
    (reached : Reaches (settings.scope depth base) (ofText text) reader) :
    Lawful text reader.cursor := by
  apply reached.invariant_of_moves .ofText
  intro before after _ lawful move
  exact lawful_of_move lawful move

/-- A reader of a text that has a next step unless it is done, and cannot go wrong in it. -/
structure Safe (settings : Settings) (depth base : Nat) (text : Text) (reader : Reader) : Prop where
  lawful : Lawful text reader.cursor
  progress : reader.mode ≠ .done → ∃ after,
    reader.step? (settings.scope depth base) = some after ∧ after.remaining < reader.remaining
  unclosed_pos : ∀ group, reader.mode = .group group → 0 < group.unclosed
  offset_pos : reader.mode = .between → reader.cursor.rest.head? = some '(' →
    0 < base + reader.cursor.next.2.pos
  body_lt : ∀ first body, reader.closing? base = some (first, body) →
    Text.byteSize body < Text.byteSize text
  /-- Nothing but the body of the group that is closed reaches the parser of groups. -/
  enters : ∀ enter enter' : Nat → Text → Option Parsed,
    (∀ first body, reader.closing? base = some (first, body) →
      enter first body = enter' first body) →
    reader.step? ⟨settings, depth, base, some enter⟩ =
      reader.step? ⟨settings, depth, base, some enter'⟩

theorem byteSize_body_lt {text : Text} {reader : Reader} (lawful : Lawful text reader.cursor)
    {base first : Nat} {body : Text} (closing : reader.closing? base = some (first, body)) :
    Text.byteSize body < Text.byteSize text := by
  obtain ⟨group, mode, closes, atCursor, known, rfl⟩ := closing?_eq_some_iff.1 closing
  obtain ⟨before, whole, -⟩ := Cursor.exists_text_eq_of_spanText? known
  obtain ⟨rest, atCursor⟩ := List.head?_eq_some_iff.1 atCursor
  have parenthesis := Char.utf8Size_pos ')'
  rw [← Cursor.text_of_lawful lawful, whole, atCursor]
  simp only [Text.byteSize_append, Text.byteSize_cons]
  omega

theorem Reaches.safe {settings : Settings} {depth base : Nat} {text : Text} {reader : Reader}
    (reached : Reaches (settings.scope depth base) (ofText text) reader) :
    reader.Safe settings depth base text := by
  have sound := reached.sound
  refine
    { lawful := reached.lawful, progress := ?_, unclosed_pos := sound.unclosed, offset_pos := ?_,
      body_lt := fun _ _ closing => byteSize_body_lt reached.lawful closing,
      enters := fun _ _ same => step?_congr_enter same sound.behind }
  · intro running
    obtain ⟨after, ran, -⟩ := exists_step? isSome_enter_scope sound
    exact ⟨after, ran, remaining_lt_of_step? running ran⟩
  · intro _ atCursor
    have positive := Cursor.pos_next_pos (Cursor.next_of_head? atCursor)
    omega

end Reader

/-- A text that is read is the part of the query that begins where it is said to. -/
theorem Invoked.exists_query_eq {settings : Settings} {query text : Text} {depth base : Nat}
    (invoked : Invoked settings query depth base text) :
    ∃ before after, query = before ++ text ++ after ∧ Text.byteSize before = base := by
  induction invoked with
  | outer => exact ⟨[], [], by simp, rfl⟩
  | @inner depth base first text body reader _ _ reached closing ih =>
      obtain ⟨before, after, rfl, rfl⟩ := ih
      obtain ⟨group, mode, closes, atCursor, known, rfl⟩ := Reader.closing?_eq_some_iff.1 closing
      obtain ⟨within, whole, start⟩ := Cursor.exists_text_eq_of_spanText? known
      rw [Cursor.text_of_lawful reached.lawful] at whole
      subst whole
      exact ⟨before ++ within, reader.cursor.rest ++ after, by simp, by simp [start]⟩

/-- Every text that a parse reads is read to its end without a fault: all positions lie in
order on characters of the text and of the query, whatever the step asks for exists, and the
texts of groups become shorter. -/
theorem reading_isSafe {settings : Settings} {query text : Text} {depth base : Nat}
    (invoked : Invoked settings query depth base text) :
    (∃ last, Reader.Reaches (settings.scope depth base) (.ofText text) last ∧
      last.mode = .done ∧ last.parsed = parseAt settings depth base text) ∧
    (∀ cursor, Cursor.Lawful text cursor →
      cursor.Placed text ∧ base + cursor.pos ≤ Text.byteSize query) ∧
    ∀ reader, Reader.Reaches (settings.scope depth base) (.ofText text) reader →
      reader.Safe settings depth base text := by
  refine ⟨exists_done_parseAt settings depth base text, ?_, fun reader reached => reached.safe⟩
  intro cursor lawful
  have placed := Cursor.placed_of_lawful lawful
  obtain ⟨before, after, rfl, rfl⟩ := invoked.exists_query_eq
  refine ⟨placed, ?_⟩
  have within := placed.pos_le_byteSize
  simp only [Text.byteSize_append]
  omega

/-- The group of a query that begins with a character of two bytes. -/
theorem reading_isSafe_in_group :
    let query : Text := ['é', ' ', '(', 'a', ')']
    Invoked {} query 1 4 ['a'] ∧
    (∀ cursor, Cursor.Lawful ['a'] cursor → cursor.Placed ['a'] ∧ 4 + cursor.pos ≤ 6) ∧
    ∀ reader, Reader.Reaches (Settings.scope {} 1 4) (.ofText ['a']) reader →
      reader.Safe {} 1 4 ['a'] := by
  intro query
  obtain ⟨reader, reached, closing⟩ : ∃ reader,
      Reader.Reaches (Settings.scope {} 0 0) (.ofText query) reader ∧
        reader.closing? 0 = some (4, ['a']) := by
    -- The reader begins the term, reads it, ends it, opens the group and reads its body.
    refine ⟨_, .step (.step (.step (.step (.step .refl ?_ rfl) ?_ rfl) ?_ rfl) ?_ rfl) ?_ rfl, ?_⟩
    all_goals decide +kernel
  have invoked : Invoked {} query 1 4 ['a'] := .inner .outer (by decide) reached closing
  exact ⟨invoked, (reading_isSafe invoked).2⟩

end SearchQuery
