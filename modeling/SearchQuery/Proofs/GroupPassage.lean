import SearchQuery.Proofs.Passage

/-! # Passing over the text of a group

The end of a group is looked for without regard to the terms in it: parentheses are counted,
and a quote character opens a literal unless it is an apostrophe. The text of a query is passed
over in this way too, since each of its quotes and parentheses is closed in it and no quote
character of it stands behind a letter.
-/

namespace SearchQuery

namespace Reader

variable {scope : Scope} {reader : Reader} {text more : Text}

/-- A reader that looks for the end of a group, outside of quotes. -/
structure Seeking (group : OpenGroup) (rest : Text) (reader : Reader) : Prop where
  mode : reader.mode = .group group
  unquoted : group.quote = none
  positive : 0 < group.unclosed
  rest : reader.cursor.rest = rest

/-- A reader behind a character after which a quote character is no apostrophe. -/
def AtBoundary (reader : Reader) : Prop :=
  ∀ c ∈ reader.cursor.previous?, Text.isAlphanumeric c = false

theorem isAlphanumeric_eq_false {c : Char}
    (member : c ∈ [' ', '+', '-', '(', ':', '=', '~', '<', '>']) : Text.isAlphanumeric c = false := by
  have none : ([' ', '+', '-', '(', ':', '=', '~', '<', '>'].any Text.isAlphanumeric) = false := by
    decide +kernel
  rw [List.any_eq_false] at none
  exact Bool.eq_false_iff.2 (none c member)

variable {group : OpenGroup}

theorem Seeking.past (seeking : reader.Seeking group (text ++ more)) :
    (reader.past text).Seeking group more :=
  { seeking with rest := Cursor.rest_past seeking.rest }

theorem atBoundary_past {c : Char} (atCursor : reader.cursor.rest = text ++ more)
    (last : text.getLast? = some c) (boundary : Text.isAlphanumeric c = false) :
    (reader.past text).AtBoundary := by
  intro previous same
  have isLast : (reader.past text).cursor.previous? = some c := by
    rw [past, Cursor.previous?_past atCursor, last, Option.some_or]
  rw [isLast] at same
  cases same
  exact boundary

theorem move_inside {c : Char} {after : OpenGroup} (mode : reader.mode = .group group)
    (positive : 0 < group.unclosed) (atCursor : reader.cursor.rest = c :: more)
    (notEscape : c ≠ '\\') (notClosing : ¬ group.Closes c)
    (becomes : group.after reader.cursor.previous? c = after) :
    Move scope reader { reader.ahead with mode := .group after } := by
  rw [← becomes]
  exact .inside mode (List.head?_eq_some_iff.2 ⟨more, atCursor⟩) notEscape positive notClosing

/-- Text without quotes and parentheses is passed over. -/
theorem Seeking.reaches_past (seeking : reader.Seeking group (text ++ more))
    (plain : ∀ c ∈ text, c ∉ ['\\', '"', '\'', '(', ')']) :
    Reaches scope reader (reader.past text) := by
  apply @Reader.reaches_past scope reader text more (fun c => c ∈ text) ?_ (fun _ member => member)
    seeking.rest
  intro cursor c others atCursor member
  have other := plain c member
  simp only [List.mem_cons, List.not_mem_nil, or_false, not_or] at other
  obtain ⟨notEscape, notQuote, notApostrophe, notOpening, notClosing⟩ := other
  have move := @move_inside scope { reader with cursor } others group c group seeking.mode
    seeking.positive atCursor notEscape (fun closes => notClosing closes.1)
    (by simp [OpenGroup.after, Text.isQuote, notQuote, notApostrophe, notOpening, notClosing])
  rw [← seeking.mode] at move
  exact move

theorem Seeking.reaches_enclosed {opening closing : Char} {within : OpenGroup}
    (seeking : reader.Seeking group (opening :: (text ++ closing :: more)))
    (opens : Move scope reader { reader.ahead with mode := .group within })
    (passes : Reaches scope { reader.ahead with mode := .group within }
      ({ reader.ahead with mode := .group within }.past text))
    (closes : Move scope ({ reader.ahead with mode := .group within }.past text)
      { ({ reader.ahead with mode := .group within }.past text).ahead with mode := .group group }) :
    Reaches scope reader (reader.past (opening :: text ++ [closing])) := by
  have whole := ((Reaches.move opens).trans passes).trans (.move closes)
  rw [← seeking.mode] at whole
  rw [Reader.past, Cursor.past_enclosed]
  exact whole

theorem Seeking.reaches_past_quotation (quotation : Quotation)
    (seeking : reader.Seeking group (quotation.text ++ more)) (boundary : reader.AtBoundary) :
    Reaches scope reader (reader.past quotation.text) := by
  obtain ⟨mark, isMark, content⟩ := quotation
  obtain ⟨occur, offset, unclosed, quote⟩ := group
  obtain ⟨mode, unquoted, positive, atCursor⟩ := seeking
  simp only [Quotation.text, List.cons_append, List.append_assoc] at atCursor
  subst unquoted
  have notSpecial : mark ≠ '\\' ∧ mark ≠ ')' := by
    simp only [Text.isQuote, Bool.or_eq_true, beq_iff_eq] at isMark
    rcases isMark with rfl | rfl <;> decide
  obtain ⟨notEscape, notClosing⟩ := notSpecial
  have opensQuote : quoteInGroup reader.cursor.previous? mark none = some mark := by
    have noLetter : reader.cursor.previous?.any Text.isAlphanumeric = false := by
      cases previous : reader.cursor.previous? with
      | none => rfl
      | some c => exact boundary c previous
    simp [quoteInGroup, noLetter]
  have atContent := Cursor.rest_next_of_cons atCursor
  have atMark : (reader.cursor.next.2.past (Text.escaped mark content)).rest = mark :: more :=
    Cursor.rest_past atContent
  refine @reaches_enclosed scope reader (Text.escaped mark content) more _ mark mark
    ⟨occur, offset, unclosed, some mark⟩ ⟨mode, rfl, positive, atCursor⟩ ?_ ?_ ?_
  · apply move_inside mode positive atCursor notEscape (fun closes => notClosing closes.1)
    simp [OpenGroup.after, isMark, opensQuote]
  · apply reaches_past_escaped (by simp) ?_ atContent
    intro cursor c others atCursor notEscape notMark
    refine @move_inside scope { reader with cursor, mode := _ } others
      ⟨occur, offset, unclosed, some mark⟩ c _ rfl positive atCursor notEscape
      (fun closes => absurd closes.2.1 (by simp)) ?_
    have other : mark ≠ c := Ne.symm notMark
    simp [OpenGroup.after, quoteInGroup, other]
  · apply @move_inside _ _ _ ⟨occur, offset, unclosed, some mark⟩ _ _ rfl positive atMark notEscape
      (fun closes => notClosing closes.1)
    simp [OpenGroup.after, isMark, quoteInGroup]

theorem Seeking.reaches_past_parens (seeking : reader.Seeking group ('(' :: (text ++ ')' :: more)))
    (passes : ∀ within : Reader, within.AtBoundary →
      within.Seeking { group with unclosed := group.unclosed + 1 } (text ++ ')' :: more) →
      Reaches scope within (within.past text)) :
    Reaches scope reader (reader.past ('(' :: text ++ [')'])) := by
  obtain ⟨occur, offset, unclosed, quote⟩ := group
  obtain ⟨mode, unquoted, positive, atCursor⟩ := seeking
  subst unquoted
  have atInner := Cursor.rest_next_of_cons atCursor
  have atClosing : (reader.cursor.next.2.past text).rest = ')' :: more := Cursor.rest_past atInner
  refine @reaches_enclosed scope reader text more _ '(' ')' ⟨occur, offset, unclosed + 1, none⟩
    ⟨mode, rfl, positive, atCursor⟩ ?_ ?_ ?_
  · exact move_inside mode positive atCursor (by decide) (fun closes => absurd closes.1 (by decide)) rfl
  · refine passes _ ?_ ⟨rfl, rfl, Nat.succ_pos unclosed, atInner⟩
    intro previous same
    have isParenthesis : reader.cursor.next.2.previous? = some '(' :=
      Cursor.previous?_next (by rw [atCursor]; rfl)
    cases isParenthesis.symm.trans same
    exact isAlphanumeric_eq_false (by decide)
  · refine move_inside rfl (Nat.succ_pos unclosed) atClosing (by decide) ?_ rfl
    rintro ⟨-, -, last⟩
    simp only at last positive
    omega

theorem Seeking.reaches_past_balanced (seeking : reader.Seeking group (text ++ more))
    (balanced : Balanced text) : Reaches scope reader (reader.past text) := by
  induction balanced generalizing reader group more with
  | empty => exact .refl
  | @char c rest plain _ ih =>
      have atCharacter : reader.Seeking group ([c] ++ (rest ++ more)) := seeking
      have first : Reaches scope reader (reader.past [c]) := by
        apply atCharacter.reaches_past
        simp only [List.mem_cons, List.not_mem_nil, or_false, not_or] at plain ⊢
        rintro _ rfl
        exact ⟨plain.2.2.2.2, plain.2.2.1, plain.2.2.2.1, plain.1, plain.2.1⟩
      exact first.trans (ih atCharacter.past)
  | @parens inner rest _ _ ihInner ihRest =>
      simp only [List.cons_append, List.append_assoc] at seeking
      have first : Reaches scope reader (reader.past ('(' :: inner ++ [')'])) :=
        seeking.reaches_past_parens fun within _ seekingWithin => ihInner seekingWithin
      have atRest : (reader.past ('(' :: inner ++ [')'])).Seeking group (rest ++ more) := by
        apply Seeking.past
        simpa using seeking
      have whole := first.trans (ihRest atRest)
      rw [← past_append] at whole
      simp only [List.append_assoc, List.singleton_append] at whole
      exact whole

theorem Reaches.past_append {first second : Text}
    (reached : Reaches scope reader (reader.past first))
    (further : Reaches scope (reader.past first) ((reader.past first).past second)) :
    Reaches scope reader (reader.past (first ++ second)) := by
  rw [Reader.past_append]
  exact reached.trans further

theorem Seeking.reaches_past_spaces {count : Nat}
    (seeking : reader.Seeking group (Text.spaces count ++ more)) :
    Reaches scope reader (reader.past (Text.spaces count)) := by
  apply seeking.reaches_past
  intro c member
  rw [List.eq_of_mem_replicate member]
  decide

theorem atBoundary_past_spaces {count : Nat} (atCursor : reader.cursor.rest = Text.spaces count ++ more)
    (boundary : 0 < count ∨ reader.AtBoundary) : (reader.past (Text.spaces count)).AtBoundary := by
  cases count with
  | zero =>
      rcases boundary with absurd | boundary
      · cases absurd
      · exact boundary
  | succ count =>
      refine @atBoundary_past reader _ more ' ' atCursor ?_ (isAlphanumeric_eq_false (by decide))
      rw [Text.spaces, List.replicate_succ', List.getLast?_concat]

theorem Seeking.reaches_past_value (value : Value)
    (seeking : reader.Seeking group (value.text ++ more)) (boundary : reader.AtBoundary) :
    Reaches scope reader (reader.past value.text) := by
  cases value with
  | quoted quotation => exact seeking.reaches_past_quotation quotation boundary
  | plain value =>
      apply seeking.reaches_past
      exact plain_of_subset value.plain (by simp)

theorem Seeking.reaches_past_name (scope : Scope) {name : FieldName} (sigil : Option ValueSigil)
    (seeking : reader.Seeking group
      ((name.text ++ ':' :: (sigil.map ValueSigil.char).toList) ++ more)) :
    Reaches scope reader (reader.past (name.text ++ ':' :: (sigil.map ValueSigil.char).toList)) ∧
      (reader.past (name.text ++ ':' :: (sigil.map ValueSigil.char).toList)).AtBoundary := by
  constructor
  · apply seeking.reaches_past
    intro c member
    rcases List.mem_append.1 member with inName | behind
    · exact plain_of_subset name.plain (by simp) c inName
    · cases sigil with
      | none =>
          rw [List.mem_singleton.1 behind]
          decide
      | some sigil =>
          simp only [Option.map_some, Option.toList_some, List.mem_cons, List.not_mem_nil,
            or_false] at behind
          rcases behind with rfl | rfl
          · decide
          · cases sigil <;> decide
  · cases sigil with
    | none =>
        have last : (name.text ++ [':']).getLast? = some ':' := by simp
        exact atBoundary_past seeking.rest last (isAlphanumeric_eq_false (by decide))
    | some sigil =>
        have last : (name.text ++ ':' :: [sigil.char]).getLast? = some sigil.char := by simp
        refine atBoundary_past seeking.rest last (isAlphanumeric_eq_false ?_)
        cases sigil <;> decide

theorem Seeking.reaches_past_sign (scope : Scope) {occur : Occur}
    (seeking : reader.Seeking group (occur.sign ++ more)) (boundary : reader.AtBoundary) :
    Reaches scope reader (reader.past occur.sign) ∧ (reader.past occur.sign).AtBoundary := by
  constructor
  · apply seeking.reaches_past
    cases occur <;> simp [Occur.sign]
  · cases occur with
    | should => exact boundary
    | must => exact atBoundary_past seeking.rest rfl (isAlphanumeric_eq_false (by decide))
    | mustNot => exact atBoundary_past seeking.rest rfl (isAlphanumeric_eq_false (by decide))

mutual

theorem reaches_past_item {item : Item} {text : Text} (written : Item.Written item text)
    {reader : Reader} {group : OpenGroup} {more : Text}
    (seeking : reader.Seeking group (text ++ more)) (boundary : reader.AtBoundary) :
    Reaches scope reader (reader.past text) := by
  cases written with
  | word word =>
      apply seeking.reaches_past
      exact plain_of_subset word.plain (by simp)
  | literal quotation => exact seeking.reaches_past_quotation quotation boundary
  | field name value =>
      have split : name.text ++ ':' :: value.text =
          (name.text ++ ':' :: (value.sigil.map ValueSigil.char).toList) ++ value.value.text := by
        simp [FieldValue.text]
      rw [split, List.append_assoc] at seeking
      rw [split]
      obtain ⟨passes, boundary⟩ := seeking.reaches_past_name scope value.sigil
      exact passes.past_append (seeking.past.reaches_past_value value.value boundary)
  | freeText name text =>
      have split : name.text ++ ':' :: '(' :: text.val ++ [')'] =
          (name.text ++ [':']) ++ ('(' :: text.val ++ [')']) := by simp
      rw [split, List.append_assoc] at seeking
      rw [split]
      obtain ⟨passes, -⟩ := seeking.reaches_past_name scope none
      have atParens := seeking.past
      simp only [List.cons_append, List.append_assoc] at atParens
      refine passes.past_append (atParens.reaches_past_parens ?_)
      intro within _ seekingWithin
      exact seekingWithin.reaches_past_balanced text.property
  | @group query inner leading listed =>
      have whole : '(' :: Text.spaces leading ++ inner ++ [')'] =
          '(' :: (Text.spaces leading ++ inner) ++ [')'] := by simp
      rw [whole] at seeking ⊢
      simp only [List.cons_append, List.append_assoc _ [')']] at seeking
      refine seeking.reaches_past_parens ?_
      intro within boundary seekingWithin
      rw [List.append_assoc] at seekingWithin
      have atListed := seekingWithin.past
      have boundary := atBoundary_past_spaces seekingWithin.rest (.inr boundary)
      exact seekingWithin.reaches_past_spaces.past_append
        (reaches_past_listed listed atListed boundary)

theorem reaches_past_listed {query : Query} {text : Text} (listed : Query.Listed query text)
    {reader : Reader} {group : OpenGroup} {more : Text}
    (seeking : reader.Seeking group (text ++ more)) (boundary : reader.AtBoundary) :
    Reaches scope reader (reader.past text) := by
  cases listed with
  | empty => exact .refl
  | @item occur item rest text following gap written listed apart =>
      simp only [List.append_assoc] at seeking ⊢
      obtain ⟨passes, boundary⟩ := seeking.reaches_past_sign scope boundary
      have atItem := seeking.past
      have atGap := atItem.past
      have atFollowing := atGap.past
      refine passes.past_append ((reaches_past_item written atItem boundary).past_append
        (atGap.reaches_past_spaces.past_append ?_))
      -- Without a gap the text behind the item might end in a letter, but then nothing follows.
      rcases apart with apart | rfl
      · exact reaches_past_listed listed atFollowing (atBoundary_past_spaces atGap.rest (.inl apart))
      · exact .refl

end

end Reader

end SearchQuery
