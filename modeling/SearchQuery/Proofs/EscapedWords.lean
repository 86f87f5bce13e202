import SearchQuery.Proofs.History
import SearchQuery.Proofs.RoundTrip

/-! # Words with escaped characters

Any character can belong to a word if a backslash stands before it. Between two items a reader
passes over such a pair without beginning a term. So a term begins at the first character that has
no backslash before it, with the pairs before that in its text, and a word of pairs only is no
term.
-/

namespace SearchQuery

/-- A character of a word, with a backslash before it or without. -/
inductive WordUnit where
  | escaped (c : Char)
  | plain (c : Char)

namespace WordUnit

def text : WordUnit → Text
  | .escaped c => ['\\', c]
  | .plain c => [c]

/-- The text of units that follow each other. -/
def listed (units : List WordUnit) : Text := units.flatMap text

theorem listed_append (first second : List WordUnit) :
    listed (first ++ second) = listed first ++ listed second :=
  List.flatMap_append

theorem plain_not_mem_pairs (c : Char) (pairs : List Char) :
    plain c ∉ pairs.map escaped := by
  intro member
  obtain ⟨d, -, equal⟩ := List.mem_map.1 member
  cases equal

theorem plain_mem_of_eq {units rest : List WordUnit} {pairs : List Char} {c : Char}
    (equal : units = pairs.map escaped ++ plain c :: rest) : plain c ∈ units := by
  rw [equal]
  exact List.mem_append_right _ List.mem_cons_self

theorem exists_leading_pairs (units : List WordUnit) :
    ∃ pairs : List Char, units = pairs.map .escaped ∨
      ∃ c rest, units = pairs.map .escaped ++ .plain c :: rest := by
  induction units with
  | nil => exact ⟨[], .inl rfl⟩
  | cons unit units ih =>
      cases unit with
      | plain c => exact ⟨[], .inr ⟨c, units, rfl⟩⟩
      | escaped c =>
          obtain ⟨pairs, rfl | ⟨d, rest, rfl⟩⟩ := ih
          · exact ⟨c :: pairs, .inl rfl⟩
          · exact ⟨c :: pairs, .inr ⟨d, rest, rfl⟩⟩

end WordUnit

/-- A word in which any character can have a backslash before it. The first that has none is not
a sign. -/
structure EscapedWord where
  units : List WordUnit
  nonempty : units ≠ []
  plain : ∀ c, .plain c ∈ units → c ∉ [' ', '\\', '"', '\'', '(', ')', ':', '=', '~', '<', '>']
  unsigned : ∀ (pairs : List Char) c rest, units = pairs.map .escaped ++ .plain c :: rest →
    c ≠ '+' ∧ c ≠ '-'

namespace EscapedWord

def text (word : EscapedWord) : Text := WordUnit.listed word.units

/-- A word of a single pair. -/
def pair (c : Char) : EscapedWord where
  units := [.escaped c]
  nonempty := List.cons_ne_nil _ _
  plain d member := absurd member (WordUnit.plain_not_mem_pairs d [c])
  unsigned _ d _ equal :=
    absurd (WordUnit.plain_mem_of_eq equal) (WordUnit.plain_not_mem_pairs d [c])

end EscapedWord

namespace Reader

variable {scope : Scope} {clauses : Clauses} {failure : Option Failure} {occur : Occur}
  {rest : Text} {reader : Reader}

theorem reaches_past_units {units : List WordUnit} (running : reader.mode ≠ .done)
    (move : ∀ cursor c others, cursor.rest = c :: others → .plain c ∈ units →
      Move scope { reader with cursor } { reader with cursor := cursor.next.2 })
    (atCursor : reader.cursor.rest = WordUnit.listed units ++ rest) :
    Reaches scope reader (reader.past (WordUnit.listed units)) := by
  induction units generalizing reader with
  | nil => exact .refl
  | cons unit units ih =>
      have others : ∀ cursor c others, cursor.rest = c :: others → .plain c ∈ units →
          Move scope { reader with cursor } { reader with cursor := cursor.next.2 } :=
        fun cursor c others atCursor member =>
          move cursor c others atCursor (List.mem_cons_of_mem _ member)
      cases unit with
      | escaped c =>
          have first : Move scope reader reader.ahead.ahead :=
            .escape running (by rw [atCursor]; rfl)
          exact (Reaches.move first).trans (@ih reader.ahead.ahead running others
            (Cursor.rest_next_of_cons (Cursor.rest_next_of_cons atCursor)))
      | plain c =>
          have first : Move scope reader reader.ahead :=
            move reader.cursor c _ atCursor List.mem_cons_self
          exact (Reaches.move first).trans
            (@ih reader.ahead running others (Cursor.rest_next_of_cons atCursor))

theorem Ready.reaches_past_pairs (scope : Scope) {pairs : List Char}
    (ready : reader.Ready clauses failure occur
      (WordUnit.listed (pairs.map .escaped) ++ rest)) :
    Reaches scope reader (reader.past (WordUnit.listed (pairs.map .escaped))) := by
  apply reaches_past_units ?_ ?_ ready.rest
  · rw [ready.mode]
    rintro ⟨⟩
  · intro cursor c others atCursor member
    exact absurd member (WordUnit.plain_not_mem_pairs c pairs)

/-- A term begins at the first character without a backslash before it. The pairs that have been
passed over are in its text. -/
theorem Ready.beginTerm_behind_pairs (scope : Scope) {pairs : List Char} {c : Char}
    (ready : reader.Ready clauses failure occur
      (WordUnit.listed (pairs.map .escaped) ++ c :: rest))
    (begins : c ∉ [' ', '\\', '+', '-', '(']) :
    ∃ after, Reaches scope reader after ∧ after.InTerm clauses failure occur none .auto none
      (WordUnit.listed (pairs.map .escaped)) (c :: rest) := by
  have passes := ready.reaches_past_pairs scope
  have atChar := Cursor.rest_past ready.rest
  have begun : Move scope (reader.past (WordUnit.listed (pairs.map .escaped))) _ :=
    .beginTerm ready.mode (by rw [past, atChar]; rfl) begins
  refine ⟨_, passes.trans (.move begun), ?_⟩
  exact
    { mode := rfl, span := Cursor.spanText?_past ready.span ready.rest, rest := atChar
      clauses := ready.clauses, failure := ready.failure, occur := ready.occur
      field := ready.field, kind := ready.kind, enclosure := ready.enclosure }

theorem InTerm.units (scope : Scope) {units : List WordUnit} {span : Text}
    (inTerm : reader.InTerm clauses failure occur none .auto none span
      (WordUnit.listed units ++ rest))
    (plain : ∀ c, .plain c ∈ units →
      c ∉ [' ', '\\', '"', '\'', '(', ')', ':', '=', '~', '<', '>']) :
    ∃ after, Reaches scope reader after ∧ after.InTerm clauses failure occur none .auto none
      (span ++ WordUnit.listed units) rest := by
  refine ⟨_, reaches_past_units ?_ ?_ inTerm.rest, inTerm.past⟩
  · rw [inTerm.mode]
    rintro ⟨⟩
  · intro cursor c others atCursor member
    have other := plain c member
    simp only [List.mem_cons, List.not_mem_nil, or_false, not_or] at other
    apply @move_plain scope { reader with cursor } others c inTerm.mode inTerm.enclosure ?_ ?_
      atCursor
    · simp [other]
    · exact .inr (by simp [isFieldDelimiter, other])

theorem Ready.escapedWord (scope : Scope) (word : EscapedWord) {c : Char}
    (member : .plain c ∈ word.units)
    (ready : reader.Ready clauses failure occur (word.text ++ rest)) :
    ∃ after, Reaches scope reader after ∧
      after.InTerm clauses failure occur none .auto none word.text rest := by
  obtain ⟨pairs, onlyPairs | ⟨first, others, isWord⟩⟩ := WordUnit.exists_leading_pairs word.units
  · rw [onlyPairs] at member
    exact absurd member (WordUnit.plain_not_mem_pairs c pairs)
  have plain : ∀ c, .plain c ∈ WordUnit.plain first :: others →
      c ∉ [' ', '\\', '"', '\'', '(', ')', ':', '=', '~', '<', '>'] := by
    intro c member
    apply word.plain c
    rw [isWord]
    exact List.mem_append_right _ member
  have begins : first ∉ [' ', '\\', '+', '-', '('] := by
    have notSigned := word.unsigned pairs first others isWord
    have notSpecial := plain first List.mem_cons_self
    simp only [List.mem_cons, List.not_mem_nil, or_false, not_or] at notSpecial ⊢
    exact ⟨notSpecial.1, notSpecial.2.1, notSigned.1, notSigned.2, notSpecial.2.2.2.2.1⟩
  rw [EscapedWord.text, isWord, WordUnit.listed_append] at ready ⊢
  rw [List.append_assoc] at ready
  obtain ⟨begun, first, inTerm⟩ := ready.beginTerm_behind_pairs scope begins
  obtain ⟨after, second, inTerm⟩ := InTerm.units scope inTerm plain
  exact ⟨after, first.trans second, inTerm⟩

end Reader

/-- A word with a plain character is one term, with the pairs before it and all others. A word of
pairs only is passed over. -/
theorem parse_escapedWord (settings : Settings) (word : EscapedWord) :
    let built := settings.buildTerm none .auto (Text.trim word.text)
    ((∃ c, .plain c ∈ word.units) →
      (parse settings word.text).clauses = { should := [built.clause] } ∧
      (parse settings word.text).failure = built.failure? ∧
      ∀ failure, built.failure? = some failure → failure.isFatal = false) ∧
    ((∀ c, .plain c ∉ word.units) →
      (parse settings word.text).clauses = {} ∧ (parse settings word.text).failure = none) := by
  intro built
  constructor
  · rintro ⟨c, member⟩
    have ready : (Reader.ofText word.text).Ready {} none .should (word.text ++ []) := by
      rw [List.append_nil]
      exact Reader.ready_ofText word.text
    obtain ⟨inside, reached, inTerm⟩ := ready.escapedWord (settings.scope 0 0) word member
    obtain ⟨behind, ended, atEnd⟩ := inTerm.ends_with_text rfl
    obtain ⟨clauses, failure⟩ :=
      Reader.parseAt_of_ends (atEnd.ends_of_nil.after (reached.trans ended))
    exact ⟨clauses, failure, built.not_fatal⟩
  · intro noPlain
    obtain ⟨pairs, onlyPairs | ⟨c, others, isWord⟩⟩ := WordUnit.exists_leading_pairs word.units
    · have ready : (Reader.ofText word.text).Ready {} none .should
          (WordUnit.listed (pairs.map .escaped) ++ []) := by
        rw [List.append_nil, ← onlyPairs]
        exact Reader.ready_ofText word.text
      have passes := ready.reaches_past_pairs (settings.scope 0 0)
      have ended : Reader.Move (settings.scope 0 0)
          ((Reader.ofText word.text).past (WordUnit.listed (pairs.map .escaped))) _ :=
        .finish ready.mode (Cursor.rest_past ready.rest)
      exact Reader.parseAt_of_ends
        ⟨_, passes.trans (.move ended), rfl, ready.clauses, ready.failure⟩
    · exact absurd (WordUnit.plain_mem_of_eq isWord) (noPlain c)

/-- A word of which only one character has no backslash before it, `\(a\ `, and one of a pair. -/
theorem parse_escapedWord_sample :
    let settings : Settings := { defaultFields := [['f']] }
    let word : EscapedWord := ⟨[.escaped '(', .plain 'a', .escaped ' '], by simp, by simp,
      by
        intro pairs c rest equal
        have isA : c = 'a' := by simpa using WordUnit.plain_mem_of_eq equal
        rw [isA]
        decide⟩
    (∃ c, .plain c ∈ word.units) ∧
      (parse settings ['\\', '(', 'a', '\\', ' ']).clauses =
        { should := [.bool [] [] [.text ['f'] ['\\', '(', 'a', '\\'] false]] } ∧
      (∀ c, .plain c ∉ (EscapedWord.pair '(').units) ∧
      (parse settings ['\\', '(']).clauses = {} := by
  intro settings word
  have plain : ∃ c, .plain c ∈ word.units := ⟨'a', by simp [word]⟩
  have noPlain : ∀ c, .plain c ∉ (EscapedWord.pair '(').units :=
    fun c => WordUnit.plain_not_mem_pairs c ['(']
  exact ⟨plain, ((parse_escapedWord settings word).1 plain).1, noPlain,
    ((parse_escapedWord settings (.pair '(')).2 noPlain).1⟩

/-- No term comes of `\(`. -/
theorem escaped_parenthesis_dropped :
    ¬ ∀ (settings : Settings) (word : EscapedWord),
      (∀ failure, (parse settings word.text).failure = some failure → failure.isFatal = false) ∧
      (parse settings word.text).clauses =
        { should := [(settings.buildTerm none .auto (Text.trim word.text)).clause] } := by
  intro always
  have dropped : (parse {} (EscapedWord.pair '(').text).clauses = {} := by decide +kernel
  have kept := (always {} (.pair '(')).2
  cases kept.symm.trans dropped

end SearchQuery
