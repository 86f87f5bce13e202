import SearchQuery.Proofs.NestedText

/-! # What the text of a value stands for

The text of a term is trimmed, taken out of its quotes or parentheses, and built into a
clause. For the texts that values are written as, this gives back the value.
-/

namespace SearchQuery

theorem plain_of_subset {t : Text} {special fewer : List Char} (plain : ∀ c ∈ t, c ∉ special)
    (subset : fewer ⊆ special) : ∀ c ∈ t, c ∉ fewer := by
  intro c member isSpecial
  exact plain c member (subset isSpecial)

namespace Text

theorem isBlank_space : isBlank ' ' = true := by decide

theorem isBlank_of_isQuote {c : Char} (quote : isQuote c) : isBlank c = false := by
  simp only [isQuote, Bool.or_eq_true, beq_iff_eq] at quote
  rcases quote with rfl | rfl <;> decide

theorem mem_trim {c : Char} {t : Text} (member : c ∈ trim t) : c ∈ t := by
  simp only [trim, trimRight, trimLeft, List.mem_reverse] at member
  have inLeft := (List.dropWhile_sublist isBlank).subset member
  exact (List.dropWhile_sublist isBlank).subset (List.mem_reverse.1 inLeft)

theorem trimRight_append_blank {c : Char} (blank : isBlank c) (t : Text) :
    trimRight (t ++ [c]) = trimRight t := by
  simp [trimRight, blank]

theorem trim_append_blank {c : Char} (blank : isBlank c) (t : Text) :
    trim (t ++ [c]) = trim t := by
  simp only [trim, trimLeft, List.dropWhile_append]
  split
  · rename_i allBlank
    rw [List.isEmpty_iff] at allBlank
    simp [allBlank, blank]
  · exact trimRight_append_blank blank _

theorem trim_of_ends {first last : Char} {inner : Text} (firstKept : isBlank first = false)
    (lastKept : isBlank last = false) :
    trim (first :: inner ++ [last]) = first :: inner ++ [last] := by
  simp [trim, trimLeft, trimRight, firstKept, lastKept]

theorem escape?_mark {mark : Char} (isMark : isQuote mark) (rest : Text) :
    escape? (mark :: rest) = some (mark, rest) := by
  simp only [isQuote, Bool.or_eq_true, beq_iff_eq] at isMark
  rcases isMark with rfl | rfl <;> rfl

theorem decode?_of_escape? {mark denoted : Char} {rest after : Text} (isMark : isQuote mark)
    (read : escape? rest = some (denoted, after)) :
    decode? mark ('\\' :: rest) = (decode? mark after).map (denoted :: ·) := by
  have notMark : '\\' ≠ mark := by
    rintro rfl
    cases isMark
  rw [decode?]
  simp only [notMark, ↓reduceIte]
  split
  · rename_i other _ again
    cases read.symm.trans again
    rfl
  · rename_i absent
    cases read.symm.trans absent

theorem decode?_escaped {mark : Char} (isMark : isQuote mark) (content : Text) :
    decode? mark (escaped mark content) = some content := by
  induction content with
  | nil => rw [escaped, List.flatMap_nil, decode?]
  | cons c rest ih =>
      rw [escaped] at ih
      rw [escaped, List.flatMap_cons]
      by_cases isEscaped : c = '\\' ∨ c = mark
      · have read : escape? (c :: escaped mark rest) = some (c, escaped mark rest) := by
          rcases isEscaped with rfl | rfl
          · rfl
          · exact escape?_mark isMark _
        rw [if_pos isEscaped, List.cons_append, List.singleton_append]
        rw [escaped] at read
        rw [decode?_of_escape? isMark read, ih, Option.map_some]
      · rw [if_neg isEscaped, List.singleton_append]
        rw [not_or] at isEscaped
        rw [decode?, if_neg isEscaped.2, if_neg isEscaped.1, ih, Option.map_some]

theorem unquote?_text (quotation : Quotation) :
    unquote? quotation.text = some quotation.content := by
  have lastIsMark : (escaped quotation.mark quotation.content ++ [quotation.mark]).getLast? =
      some quotation.mark := List.getLast?_concat
  rw [Quotation.text, List.cons_append, unquote?, if_pos ⟨quotation.isMark, lastIsMark⟩,
    List.dropLast_concat, decode?_escaped quotation.isMark]

theorem trim_text (quotation : Quotation) : trim quotation.text = quotation.text :=
  trim_of_ends (isBlank_of_isQuote quotation.isMark) (isBlank_of_isQuote quotation.isMark)

theorem unquote?_eq_none {t : Text} (unquoted : ∀ c ∈ t, ¬ isQuote c) : unquote? t = none := by
  cases t with
  | nil => rfl
  | cons first rest =>
      have notQuote := unquoted first List.mem_cons_self
      rw [unquote?, if_neg fun literal => notQuote literal.1]

end Text

namespace Literal

theorem ofRaw_quotation (quotation : Quotation) :
    ofRaw (Text.trim quotation.text) = ⟨quotation.content, true⟩ := by
  rw [Text.trim_text, ofRaw, Text.unquote?_text]

theorem ofRaw_trim {t : Text} (unquoted : ∀ c ∈ t, ¬ Text.isQuote c) :
    ofRaw (Text.trim t) = ⟨Text.trim t, false⟩ := by
  rw [ofRaw, Text.unquote?_eq_none fun c member => unquoted c (Text.mem_trim member)]

end Literal

namespace FreeText

theorem ofRaw_closed {text : Text} (nested : Text.Nested 0 text)
    (complete : text.endsInEscape = false)
    (balanced : text.outsideEscapes.count ')' = text.outsideEscapes.count '(') :
    ofRaw (Text.trim ('(' :: text ++ [')'])) = Text.trim text := by
  have behind := @splitAtClosing?_append 0 0 text nested complete (by omega) [')']
  have cut : splitAtClosing? 0 (text ++ [')']) = some (text, []) := by
    rw [behind]
    simp [splitAtClosing?]
  rw [Text.trim_of_ends (by decide) (by decide), List.cons_append, ofRaw, cut]

end FreeText

theorem not_isQuote_of_plain {t : Text} (plain : ∀ c ∈ t, c ∉ ['"', '\'']) :
    ∀ c ∈ t, ¬ Text.isQuote c := by
  intro c member quote
  apply plain c member
  simpa [Text.isQuote] using quote

theorem ofRaw_value (value : Value) : Literal.ofRaw (Text.trim value.text) = value.literal := by
  cases value with
  | quoted quotation => exact Literal.ofRaw_quotation quotation
  | plain value =>
      exact Literal.ofRaw_trim (not_isQuote_of_plain (plain_of_subset value.plain (by simp)))

theorem FieldValue.kind_ne_freeText (value : FieldValue) : value.kind ≠ .sigil .freeText := by
  obtain ⟨sigil, value, unmistakable⟩ := value
  cases sigil with
  | none => simp [kind]
  | some sigil => cases sigil <;> simp [kind, ValueSigil.toSigil]

namespace Settings

variable (settings : Settings)

theorem buildDefault_eq (raw : Text) :
    settings.buildDefault raw = settings.onDefaultFields (Literal.ofRaw raw) := by
  simp [buildDefault, onDefaultFields, Clauses.toClause, List.map_map, List.flatMap_map,
    Function.comp_def]

theorem buildTerm_word (kind : MatchKind) (word : Word) :
    settings.buildTerm none kind (Text.trim word.text) =
      settings.onDefaultFields ⟨Text.trim word.text, false⟩ := by
  have unquoted := not_isQuote_of_plain (plain_of_subset word.plain (by simp))
  rw [buildTerm, buildDefault_eq, Literal.ofRaw_trim unquoted]

theorem buildTerm_quotation (kind : MatchKind) (quotation : Quotation) :
    settings.buildTerm none kind (Text.trim quotation.text) =
      settings.onDefaultFields ⟨quotation.content, true⟩ := by
  rw [buildTerm, buildDefault_eq, Literal.ofRaw_quotation]

theorem buildTerm_value (name : Text) (value : FieldValue) :
    settings.buildTerm (some name) value.kind (Text.trim value.value.text) =
      settings.onField name value.kind value.value.literal := by
  simp only [buildTerm, buildFielded, if_neg value.kind_ne_freeText, ofRaw_value, onField]

theorem buildTerm_freeText {raw text : Text} (name : Text)
    (isValue : FreeText.ofRaw raw = Text.trim text) :
    settings.buildTerm (some name) (.sigil .freeText) raw =
      settings.onField name (.sigil .freeText) ⟨Text.trim text, false⟩ := by
  simp only [buildTerm, buildFielded, ↓reduceIte, isValue, onField]

end Settings

end SearchQuery
