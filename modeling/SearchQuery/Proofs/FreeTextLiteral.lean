import Mathlib.Data.List.DropRight
import SearchQuery.Proofs.Resuming
import SearchQuery.Proofs.RoundTrip

/-! # Where a literal in parentheses ends

A field whose value is in parentheses takes everything up to the parenthesis that closes the first
one, whatever else stands between. That parenthesis is looked for twice: by the reader, to find the
end of the term, and in the text of the term, to take the parentheses off. Both pass over whatever
follows a backslash and count every other parenthesis, so they agree; where none closes the first
one, everything that is left is the literal.
-/

namespace SearchQuery

namespace Text

variable {text : Text} {c : Char}

theorem trim_trimRight (text : Text) : trim (trimRight text) = trim text := by
  induction text using List.reverseRecOn with
  | nil => rfl
  | append_singleton text c ih =>
      by_cases blank : isBlank c
      · rw [trimRight_append_blank blank, trim_append_blank blank, ih]
      · rw [trimRight, ← List.rdropWhile, List.rdropWhile_concat_neg isBlank text c blank]

theorem trimRight_cons (notBlank : isBlank c = false) (text : Text) :
    trimRight (c :: text) = c :: trimRight text := by
  simp only [trimRight, List.reverse_cons, List.dropWhile_append]
  split
  · rename_i allBlank
    rw [List.isEmpty_iff] at allBlank
    simp [allBlank, notBlank]
  · simp

theorem trim_cons (notBlank : isBlank c = false) (text : Text) :
    trim (c :: text) = c :: trimRight text := by
  rw [trim, trimLeft, List.dropWhile_cons_of_neg (by simp [notBlank]), trimRight_cons notBlank]

end Text

namespace FreeText

variable {text : Text}

theorem ofRaw_unclosed (nested : Text.Nested 0 text) :
    ofRaw (Text.trim ('(' :: text)) = Text.trim text := by
  have uncut : splitAtClosing? 0 (Text.trimRight text) = none :=
    splitAtClosing?_eq_none (nested.of_prefix (List.rdropWhile_prefix Text.isBlank text))
  rw [Text.trim_cons (by decide), ofRaw, uncut, Text.trim_trimRight]

end FreeText

theorem Settings.onField_freeText_of_unchecked {settings : Settings} {name : Text}
    (unchecked : settings.checks.find? (settings.storedField name) = none) (value : Text) :
    settings.onField name (.sigil .freeText) ⟨value, false⟩ =
      { clause := settings.nest (settings.storedField name)
          (.freeText value [settings.storedField name]) } := by
  simp only [onField, checkValue, unchecked, MatchKind.leaf]

/-- A literal in parentheses ends with the parenthesis that closes its first one, with everything
between as its value, and what follows is read as a query of its own. Without that parenthesis
everything that is left is its value. -/
theorem freeText_ends_at_closing (settings : Settings) (name : FieldName) (text : Text)
    (unchecked : settings.checks.find? (settings.storedField (Text.trim name.text)) = none)
    (nested : Text.Nested 0 text) :
    let field := settings.storedField (Text.trim name.text)
    let leaf := settings.nest field (.freeText (Text.trim text) [field])
    let opening := name.text ++ ':' :: '(' :: text
    (text.outsideEscapes.count ')' = text.outsideEscapes.count '(' → text.endsInEscape = false →
      ∀ rest,
        let closed := opening ++ [')', ' ']
        let whole := parse settings (closed ++ rest)
        let behind := parse settings rest
        whole.clauses = { behind.clauses with should := leaf :: behind.clauses.should } ∧
        whole.failure = behind.failure.map (Failure.shifted { bytes := Text.byteSize closed })) ∧
    (parse settings opening).clauses = { should := [leaf] } ∧
    (parse settings opening).failure = none := by
  intro field leaf opening
  constructor
  · intro balanced complete rest closed whole behind
    have ready : (Reader.ofText (closed ++ rest)).Ready {} none .should
        (name.text ++ ':' :: '(' :: text ++ [')'] ++ (Text.spaces 1 ++ rest)) := by
      have ready := Reader.ready_ofText (closed ++ rest)
      simpa [closed, opening, Text.spaces] using ready
    have reads : (Reader.ofText (closed ++ rest)).Reads (settings.scope 0 0) {} none .should
        (settings.onField (Text.trim name.text) (.sigil .freeText) ⟨Text.trim text, false⟩) rest :=
      ready.reads_freeText name nested complete balanced (.inl Nat.one_pos)
    rw [Settings.onField_freeText_of_unchecked unchecked] at reads
    obtain ⟨ended, reached, ready⟩ := reads.exists_ready
    have joined : whole = ended.parsed.joined (behind.shifted { bytes := Text.byteSize closed }) :=
      ready.parseAt_eq reached
    have clauses : ended.parsed.clauses = { should := [leaf] } := ready.clauses
    rw [joined]
    constructor
    · rw [Parsed.joined, clauses]
      rfl
    · exact Parsed.failure_joined_of_none ready.failure _
  · obtain ⟨level, isLevel⟩ := Nat.exists_eq_add_of_le' (nested _ List.prefix_rfl)
    have ready : (Reader.ofText opening).Ready {} none .should
        (name.text ++ ':' :: '(' :: (text ++ [])) := by
      rw [List.append_nil]
      exact Reader.ready_ofText opening
    obtain ⟨inside, first, inTerm⟩ := ready.reaches_nested (settings.scope 0 0) name nested
      (.inr rfl) isLevel.symm
    have isBuilt := (settings.buildTerm_freeText (Text.trim name.text)
      (FreeText.ofRaw_unclosed nested)).trans
        (Settings.onField_freeText_of_unchecked unchecked _)
    obtain ⟨ended, second, ready⟩ := @Reader.InTerm.ends_with_text (settings.scope 0 0) _ _ _ _ _ _
      _ _ inTerm _ isBuilt.symm
    exact Reader.parseAt_of_ends (ready.ends_of_nil.after (first.trans second))

/-- The text `\)"( ) :` as the literal of a nested field, closed before `+a (` and not closed. -/
theorem freeText_ends_at_closing_sample :
    let settings : Settings :=
      { defaultFields := [['d']], fieldMapping := .ofList [(['n'], ['s', '.', 'f'])]
        nestedPaths := [['s']] }
    let text : Text := ['\\', ')', '"', '(', ' ', ')', ' ', ':']
    let leaf : Clause := .nested ['s'] (.freeText text [['s', '.', 'f']])
    let opening : Text := ['n', ':', '('] ++ text
    settings.checks.find? ['s', '.', 'f'] = none ∧ Text.Nested 0 text ∧
    (parse settings (opening ++ [')', ' '] ++ ['+', 'a', ' ', '('])).clauses =
      { must := [.bool [] [] [.text ['d'] ['a'] false]], should := [leaf] } ∧
    (parse settings (opening ++ [')', ' '] ++ ['+', 'a', ' ', '('])).failure =
      some (.unclosedGroup 16) ∧
    (parse settings opening).clauses = { should := [leaf] } := by
  intro settings text leaf opening
  have unchecked : settings.checks.find? ['s', '.', 'f'] = none := rfl
  have nested : Text.Nested 0 text := by decide
  obtain ⟨closed, unclosed⟩ := freeText_ends_at_closing settings
    ⟨⟨['n'], by simp, by simp, by simp⟩, by decide⟩ text unchecked nested
  obtain ⟨clauses, failure⟩ := closed (by decide) (by decide) ['+', 'a', ' ', '(']
  refine ⟨unchecked, nested, clauses.trans ?_, failure.trans ?_, unclosed.1.trans ?_⟩
  all_goals decide +kernel

end SearchQuery
