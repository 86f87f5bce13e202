import SearchQuery.Proofs.Invocation
import SearchQuery.Proofs.Spelling

/-! # Passing over the text of a value

While a reader looks for the end of a term it passes over the text between, and what it takes
note of are quotes and parentheses. Each quote and parenthesis in the text of a value is closed
in it, so the text changes nothing but the place of the reader.
-/

namespace SearchQuery

namespace Cursor

/-- The cursor behind a text that it is at. -/
def past (text : Text) (cursor : Cursor) : Cursor :=
  text.foldl (fun cursor _ => cursor.next.2) cursor

variable {cursor : Cursor} {text more : Text}

theorem past_append (first second : Text) (cursor : Cursor) :
    cursor.past (first ++ second) = (cursor.past first).past second := by
  rw [past, List.foldl_append]
  rfl

theorem past_enclosed (opening closing : Char) (inner : Text) (cursor : Cursor) :
    cursor.past (opening :: inner ++ [closing]) = (cursor.next.2.past inner).next.2 :=
  past_append (opening :: inner) [closing] cursor

theorem rest_past (atCursor : cursor.rest = text ++ more) : (cursor.past text).rest = more := by
  induction text generalizing cursor with
  | nil => exact atCursor
  | cons c rest ih => exact ih (rest_next_of_cons atCursor)

theorem spanText?_past {span : Text} (known : cursor.spanText? = some span)
    (atCursor : cursor.rest = text ++ more) :
    (cursor.past text).spanText? = some (span ++ text) := by
  induction text generalizing cursor span with
  | nil => simpa [past] using known
  | cons c rest ih =>
      have read := @spanText?_next cursor c (by rw [atCursor]; rfl) span known
      have whole := ih read (rest_next_of_cons atCursor)
      rw [List.append_assoc] at whole
      exact whole

theorem previous?_past (atCursor : cursor.rest = text ++ more) :
    (cursor.past text).previous? = text.getLast?.or cursor.previous? := by
  induction text generalizing cursor with
  | nil => rfl
  | cons c rest ih =>
      have read : cursor.next.2.previous? = some c := previous?_next (by rw [atCursor]; rfl)
      have whole := ih (rest_next_of_cons atCursor)
      rw [read] at whole
      rw [List.getLast?_cons, Option.some_or]
      change (cursor.next.2.past rest).previous? = _
      rw [whole]
      cases rest.getLast? <;> rfl

end Cursor

namespace Reader

/-- The reader behind a text that it is at. -/
def past (text : Text) (reader : Reader) : Reader :=
  { reader with cursor := reader.cursor.past text }

variable {scope : Scope} {reader : Reader} {text more : Text}

theorem past_append (first second : Text) (reader : Reader) :
    reader.past (first ++ second) = (reader.past first).past second := by
  rw [past, Cursor.past_append]
  rfl

/-- A text is passed over if each of its characters is. -/
theorem reaches_past {Allowed : Char → Prop}
    (move : ∀ cursor c others, cursor.rest = c :: others → Allowed c →
      Move scope { reader with cursor } { reader with cursor := cursor.next.2 })
    (allowed : ∀ c ∈ text, Allowed c) (atCursor : reader.cursor.rest = text ++ more) :
    Reaches scope reader (reader.past text) := by
  induction text generalizing reader with
  | nil => exact .refl
  | cons c rest ih =>
      have first : Move scope reader reader.ahead :=
        move reader.cursor c _ atCursor (allowed c List.mem_cons_self)
      have others : Reaches scope reader.ahead (reader.ahead.past rest) :=
        ih move (fun c member => allowed c (List.mem_cons_of_mem _ member))
          (Cursor.rest_next_of_cons atCursor)
      exact (Reaches.move first).trans others

theorem reaches_past_escaped {mark : Char} {content : Text} (running : reader.mode ≠ .done)
    (move : ∀ cursor c others, cursor.rest = c :: others → c ≠ '\\' → c ≠ mark →
      Move scope { reader with cursor } { reader with cursor := cursor.next.2 })
    (atCursor : reader.cursor.rest = Text.escaped mark content ++ more) :
    Reaches scope reader (reader.past (Text.escaped mark content)) := by
  induction content generalizing reader with
  | nil => exact .refl
  | cons c rest ih =>
      rw [Text.escaped, List.flatMap_cons] at atCursor ⊢
      by_cases isEscaped : c = '\\' ∨ c = mark
      · -- The backslash and the character behind it are one step.
        rw [if_pos isEscaped] at atCursor ⊢
        have first : Move scope reader reader.ahead.ahead :=
          .escape running (by rw [atCursor]; rfl)
        have others := @ih reader.ahead.ahead running move
          (Cursor.rest_next_of_cons (Cursor.rest_next_of_cons atCursor))
        exact (Reaches.move first).trans others
      · rw [if_neg isEscaped] at atCursor ⊢
        rw [not_or] at isEscaped
        have first : Move scope reader reader.ahead :=
          move reader.cursor c _ atCursor isEscaped.1 isEscaped.2
        have others := @ih reader.ahead running move (Cursor.rest_next_of_cons atCursor)
        exact (Reaches.move first).trans others

theorem move_content {c : Char} {enclosure : Option Enclosure} (mode : reader.mode = .term)
    (atCursor : reader.cursor.rest = c :: more) (notEscape : c ≠ '\\')
    (spaceInside : c = ' ' → reader.enclosure.isSome)
    (delimiterInside : isFieldDelimiter c → reader.enclosure.isSome ∨ reader.field.isSome)
    (becomes : Enclosure.after reader.cursor.atSpanStart c reader.enclosure = enclosure) :
    Move scope reader { reader.ahead with enclosure } := by
  rw [← becomes]
  exact .content mode (List.head?_eq_some_iff.2 ⟨more, atCursor⟩) notEscape spaceInside
    fun delimiter => (delimiterInside delimiter).imp id .inl

theorem move_plain {c : Char} (mode : reader.mode = .term) (outside : reader.enclosure = none)
    (plain : c ∉ [' ', '\\', '"', '\'', '(', ')'])
    (noName : reader.field.isSome ∨ isFieldDelimiter c = false)
    (atCursor : reader.cursor.rest = c :: more) : Move scope reader reader.ahead := by
  simp only [List.mem_cons, List.not_mem_nil, or_false, not_or] at plain
  obtain ⟨notSpace, notEscape, notQuote, notApostrophe, notOpening, notClosing⟩ := plain
  apply @move_content scope reader more c reader.enclosure mode atCursor notEscape
  · intro space
    exact absurd space notSpace
  · intro delimiter
    rcases noName with named | none
    · exact .inr named
    · rw [none] at delimiter
      cases delimiter
  · simp [outside, Enclosure.after, notOpening, notClosing, Text.isQuote, notQuote, notApostrophe]

theorem reaches_past_value (mode : reader.mode = .term) (outside : reader.enclosure = none)
    (plain : ∀ c ∈ text, c ∉ [' ', '\\', '"', '\'', '(', ')'])
    (noName : reader.field.isSome ∨ ∀ c ∈ text, isFieldDelimiter c = false)
    (atCursor : reader.cursor.rest = text ++ more) :
    Reaches scope reader (reader.past text) := by
  -- Text without spaces, quotes and parentheses belongs to the value, if it cannot be taken for
  -- the name of a field.
  apply @reaches_past scope reader text more (fun c => c ∈ text) ?_ (fun _ member => member) atCursor
  intro cursor c others atCursor member
  exact @move_plain scope { reader with cursor } others c mode outside (plain c member)
    (noName.imp_right fun none => none c member) atCursor

theorem reaches_past_quoted {mark : Char} {content : Text} (mode : reader.mode = .term)
    (inside : reader.enclosure = some (.quote mark))
    (atCursor : reader.cursor.rest = Text.escaped mark content ++ more) :
    Reaches scope reader (reader.past (Text.escaped mark content)) := by
  apply reaches_past_escaped (by simp [mode]) ?_ atCursor
  intro cursor c others atCursor notEscape notMark
  refine @move_content scope { reader with cursor } others c reader.enclosure mode atCursor notEscape
    ?_ ?_ ?_
  · simp [inside]
  · simp [inside]
  · have other : mark ≠ c := Ne.symm notMark
    simp [inside, Enclosure.after, Enclosure.opened, Enclosure.closed?, quoteInTerm, other]

theorem reaches_enclosed {opening closing : Char} {within after : Option Enclosure}
    (opens : Move scope reader { reader.ahead with enclosure := within })
    (passes : Reaches scope { reader.ahead with enclosure := within }
      ({ reader.ahead with enclosure := within }.past text))
    (closes : Move scope ({ reader.ahead with enclosure := within }.past text)
      { ({ reader.ahead with enclosure := within }.past text).ahead with enclosure := after }) :
    Reaches scope reader { reader.past (opening :: text ++ [closing]) with enclosure := after } := by
  rw [past, Cursor.past_enclosed]
  exact ((Reaches.move opens).trans passes).trans (.move closes)

theorem reaches_past_quotation (mode : reader.mode = .term) (outside : reader.enclosure = none)
    (quotation : Quotation) (atStart : reader.cursor.atSpanStart)
    (atCursor : reader.cursor.rest = quotation.text ++ more) :
    Reaches scope reader (reader.past quotation.text) := by
  obtain ⟨mark, isMark, content⟩ := quotation
  simp only [Quotation.text, List.cons_append, List.append_assoc] at atCursor
  have notSpecial : mark ∉ [' ', '\\', '(', ')'] ∧ isFieldDelimiter mark = false := by
    simp only [Text.isQuote, Bool.or_eq_true, beq_iff_eq] at isMark
    rcases isMark with rfl | rfl <;> decide
  simp only [List.mem_cons, List.not_mem_nil, or_false, not_or] at notSpecial
  obtain ⟨⟨notSpace, notEscape, notOpening, notClosing⟩, notDelimiter⟩ := notSpecial
  have opens : Move scope reader { reader.ahead with enclosure := some (.quote mark) } := by
    refine move_content mode atCursor notEscape
      (fun space => absurd space notSpace) (by simp [notDelimiter]) ?_
    simp [outside, Enclosure.after, notOpening, notClosing, isMark, quoteInTerm, atStart]
  have atContent := Cursor.rest_next_of_cons atCursor
  have passes := @reaches_past_quoted scope { reader.ahead with enclosure := some (.quote mark) }
    _ mark content mode rfl atContent
  have atMark : (reader.cursor.next.2.past (Text.escaped mark content)).rest = mark :: more :=
    Cursor.rest_past atContent
  have closes := @move_content scope
    ({ reader.ahead with enclosure := some (.quote mark) }.past (Text.escaped mark content))
    more mark none mode atMark notEscape (fun space => absurd space notSpace)
    (by simp [notDelimiter])
    (by simp [past, Enclosure.after, notOpening, notClosing, isMark, quoteInTerm])
  rw [Quotation.text]
  have whole := @reaches_enclosed scope reader _ mark mark _ _ opens passes closes
  rw [← outside] at whole
  exact whole

end Reader

end SearchQuery
