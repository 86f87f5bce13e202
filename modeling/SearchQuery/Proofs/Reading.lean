import SearchQuery.Proofs.GroupPassage

/-! # Reading the terms of a query

Between two items a reader is `Ready`: it knows how the next clause will occur and nothing
else about it. Spaces and signs leave it ready, and so does a term, whose clause it has added
by then.
-/

namespace SearchQuery

namespace Cursor

theorem previous?_commit (cursor : Cursor) : cursor.commit.previous? = cursor.previous? := by
  obtain ⟨committed, span, rest, canBackUp⟩ := cursor
  cases span with
  | none => rfl
  | some span => cases span <;> rfl

end Cursor

namespace Reader

/-- A reader between two items: what it has parsed, how the next clause will occur, and what
is left of the text. -/
structure Ready (clauses : Clauses) (failure : Option Failure) (occur : Occur) (rest : Text)
    (reader : Reader) : Prop where
  mode : reader.mode = .between
  span : reader.cursor.spanText? = some []
  rest : reader.cursor.rest = rest
  clauses : reader.clauses = clauses
  failure : reader.failure = failure
  occur : reader.occur = occur
  field : reader.field = none
  kind : reader.kind = .auto
  enclosure : reader.enclosure = none

/-- A reader in a term, outside of quotes and parentheses: what it knows of the term, the text
of the name or value so far, and what is left of the text. -/
structure InTerm (clauses : Clauses) (failure : Option Failure) (occur : Occur)
    (field : Option Text) (kind : MatchKind) (enclosure : Option Enclosure) (span rest : Text)
    (reader : Reader) : Prop where
  mode : reader.mode = .term
  span : reader.cursor.spanText? = some span
  rest : reader.cursor.rest = rest
  clauses : reader.clauses = clauses
  failure : reader.failure = failure
  occur : reader.occur = occur
  field : reader.field = field
  kind : reader.kind = kind
  enclosure : reader.enclosure = enclosure

variable {scope : Scope} {clauses : Clauses} {failure : Option Failure} {occur : Occur}
  {field : Option Text} {kind : MatchKind} {enclosure : Option Enclosure} {span text rest : Text}
  {reader : Reader}

theorem ready_ofText (text : Text) : (ofText text).Ready {} none .should text :=
  ⟨rfl, rfl, rfl, rfl, rfl, rfl, rfl, rfl, rfl⟩

theorem Ready.mark (scope : Scope) {c : Char} {spanKind : SpanKind} {next : Occur}
    (ready : reader.Ready clauses failure occur (c :: rest)) (mark : Mark occur c spanKind next) :
    ∃ after, Reaches scope reader after ∧ after.Ready clauses failure next rest := by
  have atCursor : reader.cursor.rest.head? = some c := by rw [ready.rest]; rfl
  have read := Cursor.spanText?_next atCursor ready.span
  refine ⟨_, .move (.mark ready.mode atCursor (ready.occur ▸ mark) read), ?_⟩
  exact
    { mode := ready.mode, span := rfl, clauses := ready.clauses, failure := ready.failure
      rest := (Cursor.rest_commit _).trans (Cursor.rest_next_of_cons ready.rest)
      occur := rfl, field := ready.field, kind := ready.kind, enclosure := ready.enclosure }

theorem Ready.spaces (scope : Scope) {count : Nat}
    (ready : reader.Ready clauses failure occur (Text.spaces count ++ rest)) :
    ∃ after, Reaches scope reader after ∧ after.Ready clauses failure occur rest := by
  induction count generalizing reader with
  | zero => exact ⟨reader, .refl, ready⟩
  | succ count ih =>
      obtain ⟨middle, first, ready⟩ := Ready.mark scope ready .blank
      obtain ⟨after, others, ready⟩ := ih ready
      exact ⟨after, first.trans others, ready⟩

theorem Ready.sign (scope : Scope) (ready : reader.Ready clauses failure .should (occur.sign ++ rest)) :
    ∃ after, Reaches scope reader after ∧ after.Ready clauses failure occur rest := by
  cases occur with
  | should => exact ⟨reader, .refl, ready⟩
  | must => exact ready.mark scope .must
  | mustNot => exact ready.mark scope .mustNot

theorem Ready.beginTerm (scope : Scope) {c : Char}
    (ready : reader.Ready clauses failure occur (c :: rest))
    (begins : c ∉ [' ', '\\', '+', '-', '(']) :
    ∃ after, Reaches scope reader after ∧
      after.InTerm clauses failure occur none .auto none [] (c :: rest) := by
  have atCursor : reader.cursor.rest.head? = some c := by rw [ready.rest]; rfl
  refine ⟨_, .move (.beginTerm ready.mode atCursor begins), ?_⟩
  exact
    { mode := rfl, span := ready.span, rest := ready.rest, clauses := ready.clauses
      failure := ready.failure, occur := ready.occur, field := ready.field, kind := ready.kind
      enclosure := ready.enclosure }

theorem Ready.opensGroup (scope : Scope) (ready : reader.Ready clauses failure occur ('(' :: rest)) :
    ∃ offset opened, Move scope reader opened ∧ opened.mode = .group { occur, offset } ∧
      opened.cursor.previous? = some '(' ∧ opened.cursor.spanText? = some [] ∧
      opened.cursor.rest = rest ∧ opened.clauses = clauses ∧ opened.failure = failure := by
  have atCursor : reader.cursor.rest.head? = some '(' := by rw [ready.rest]; rfl
  have read := Cursor.spanText?_next atCursor ready.span
  have positive : 0 < reader.ahead.cursor.pos := Cursor.pos_next_pos (Cursor.next_of_head? atCursor)
  obtain ⟨offset, isOffset⟩ : ∃ offset, scope.base + reader.ahead.cursor.pos = offset + 1 :=
    Nat.exists_eq_add_one.2 (by omega)
  refine ⟨offset, _, .openGroup ready.mode atCursor read isOffset, ?_, ?_, rfl, ?_, ready.clauses,
    ready.failure⟩
  · rw [← ready.occur]
    rfl
  · exact (Cursor.previous?_commit _).trans (Cursor.previous?_next atCursor)
  · exact (Cursor.rest_commit _).trans (Cursor.rest_next_of_cons ready.rest)

theorem InTerm.past
    (inTerm : reader.InTerm clauses failure occur field kind enclosure span (text ++ rest)) :
    (reader.past text).InTerm clauses failure occur field kind enclosure (span ++ text) rest :=
  { inTerm with
    span := Cursor.spanText?_past inTerm.span inTerm.rest
    rest := Cursor.rest_past inTerm.rest }

theorem InTerm.ready_endingTerm {whole more : Text}
    (inTerm : reader.InTerm clauses failure occur field kind enclosure span more)
    (left : reader.cursor.next.2.rest = rest) (trimmed : Text.trim whole = Text.trim span)
    {built : BuiltTerm} (isBuilt : built = scope.settings.buildTerm field kind (Text.trim span)) :
    (reader.ahead.endingTerm scope whole).Ready (clauses.add occur built.clause)
      (failure <|> built.failure?) .should rest := by
  have sameBuilt : scope.settings.buildTerm reader.ahead.field reader.ahead.kind
      (Text.trim whole) = built := by
    rw [isBuilt, trimmed, ← inTerm.field, ← inTerm.kind]
    rfl
  constructor
  case mode | span | occur | field | kind | enclosure => rfl
  case rest => exact left
  case clauses =>
      rw [← sameBuilt, ← inTerm.clauses, ← inTerm.occur]
      rfl
  case failure =>
      rw [← sameBuilt, ← inTerm.failure]
      rfl

theorem InTerm.ends_with_text
    (inTerm : reader.InTerm clauses failure occur field kind enclosure span [])
    {built : BuiltTerm} (isBuilt : built = scope.settings.buildTerm field kind (Text.trim span)) :
    ∃ after, Reaches scope reader after ∧
      after.Ready (clauses.add occur built.clause) (failure <|> built.failure?) .should [] := by
  have known := (Cursor.spanText?_next_of_nil inTerm.rest).trans inTerm.span
  have left : reader.cursor.next.2.rest = [] := by
    rw [Cursor.rest_next, inTerm.rest]
    rfl
  exact ⟨_, .move (.endTerm inTerm.mode (.inl inTerm.rest) known),
    inTerm.ready_endingTerm left rfl isBuilt⟩

/-- A term ends before the next space or with the text. -/
theorem InTerm.ends {gap : Nat}
    (inTerm : reader.InTerm clauses failure occur field kind none span (Text.spaces gap ++ rest))
    (apart : 0 < gap ∨ rest = []) {built : BuiltTerm}
    (isBuilt : built = scope.settings.buildTerm field kind (Text.trim span)) :
    ∃ after left, Reaches scope reader after ∧
      after.Ready (clauses.add occur built.clause) (failure <|> built.failure?) .should
        (Text.spaces left ++ rest) := by
  -- The space that ends the term is read with it and trimmed off its value.
  cases gap with
  | zero =>
      obtain rfl := apart.resolve_left (Nat.lt_irrefl 0)
      obtain ⟨after, ended, ready⟩ := inTerm.ends_with_text isBuilt
      exact ⟨after, 0, ended, ready⟩
  | succ gap =>
      have atSpace : reader.cursor.rest.head? = some ' ' := by rw [inTerm.rest]; rfl
      have known := Cursor.spanText?_next atSpace inTerm.span
      have left : reader.cursor.next.2.rest = Text.spaces gap ++ rest :=
        Cursor.rest_next_of_cons inTerm.rest
      exact ⟨_, gap, .move (.endTerm inTerm.mode (.inr ⟨atSpace, inTerm.enclosure⟩) known),
        inTerm.ready_endingTerm left (Text.trim_append_blank Text.isBlank_space span) isBuilt⟩

theorem InTerm.name (scope : Scope)
    (inTerm : reader.InTerm clauses failure occur none .auto none span (':' :: rest))
    (nonempty : Text.trim span ≠ []) :
    ∃ named : Reader, Reaches scope reader (named.sigilled scope) ∧
      named.InTerm clauses failure occur (some (Text.trim span)) .auto none [] rest := by
  have atCursor : reader.cursor.rest.head? = some ':' := by rw [inTerm.rest]; rfl
  have known := Cursor.spanText?_next atCursor inTerm.span
  have value : reader.cursor.value? = some (Text.trim span) := by
    rw [Cursor.value?, inTerm.span, Option.map_some]
  refine ⟨_, .move (.name inTerm.mode atCursor rfl inTerm.enclosure inTerm.field value nonempty
    rfl known), ?_⟩
  exact
    { mode := inTerm.mode, span := rfl, rest := Cursor.rest_next_of_cons inTerm.rest
      clauses := inTerm.clauses, failure := inTerm.failure, occur := inTerm.occur
      field := rfl, kind := inTerm.kind, enclosure := inTerm.enclosure }

theorem InTerm.sigilled_none (scope : Scope)
    (inTerm : reader.InTerm clauses failure occur field .auto none [] rest)
    (absent : rest.head?.bind Sigil.ofChar? = none) :
    (reader.sigilled scope).InTerm clauses failure occur field .auto none [] rest := by
  rw [sigilled, inTerm.rest, absent]
  exact { inTerm with span := inTerm.span }

theorem InTerm.sigilled_value (scope : Scope) {sigil : ValueSigil}
    (inTerm : reader.InTerm clauses failure occur field .auto none [] (sigil.char :: rest)) :
    (reader.sigilled scope).InTerm clauses failure occur field (.sigil sigil.toSigil) none []
      rest := by
  have present : reader.cursor.rest.head?.bind Sigil.ofChar? = some sigil.toSigil := by
    rw [inTerm.rest]
    cases sigil <;> rfl
  have ahead : (reader.sigilled scope) = committing scope (.sigil sigil.toSigil)
      (reader.cursor.rest.take 1) { reader.ahead with kind := .sigil sigil.toSigil } := by
    rw [sigilled, present]
    cases sigil <;> rfl
  rw [ahead]
  exact
    { mode := inTerm.mode, span := rfl, rest := Cursor.rest_next_of_cons inTerm.rest
      clauses := inTerm.clauses, failure := inTerm.failure, occur := inTerm.occur
      field := inTerm.field, kind := rfl, enclosure := inTerm.enclosure }

theorem InTerm.sigilled_freeText (scope : Scope)
    (inTerm : reader.InTerm clauses failure occur field .auto none [] ('(' :: rest)) :
    (reader.sigilled scope).InTerm clauses failure occur field (.sigil .freeText)
      (some (.parens 0)) [] ('(' :: rest) := by
  have present : reader.cursor.rest.head?.bind Sigil.ofChar? = some .freeText := by
    rw [inTerm.rest]
    rfl
  rw [sigilled, present]
  exact
    { mode := inTerm.mode, span := rfl, rest := inTerm.rest, clauses := inTerm.clauses
      failure := inTerm.failure, occur := inTerm.occur, field := inTerm.field, kind := rfl
      enclosure := rfl }

/-- The reader comes behind an item that stands for what was built. -/
def Reads (scope : Scope) (clauses : Clauses) (failure : Option Failure) (occur : Occur)
    (built : BuiltTerm) (following : Text) (reader : Reader) : Prop :=
  ∃ after left, Reaches scope reader after ∧
    after.Ready (clauses.add occur built.clause) (failure <|> built.failure?) .should
      (Text.spaces left ++ following)

variable {gap : Nat} {following : Text}

theorem Reads.after {middle : Reader} {built : BuiltTerm}
    (reached : Reaches scope reader middle)
    (reads : middle.Reads scope clauses failure occur built following) :
    reader.Reads scope clauses failure occur built following := by
  obtain ⟨after, left, further, ready⟩ := reads
  exact ⟨after, left, reached.trans further, ready⟩

theorem Reads.exists_ready {built : BuiltTerm}
    (reads : reader.Reads scope clauses failure occur built following) :
    ∃ ready, Reaches scope reader ready ∧ ready.Ready (clauses.add occur built.clause)
      (failure <|> built.failure?) .should following := by
  obtain ⟨after, left, reached, atItem⟩ := reads
  obtain ⟨ready, further, isReady⟩ := atItem.spaces scope
  exact ⟨ready, reached.trans further, isReady⟩

theorem exists_cons_of_word (word : Word) :
    ∃ c rest, word.text = c :: rest ∧ c ∉ [' ', '\\', '+', '-', '('] := by
  obtain ⟨text, nonempty, plain, unsigned⟩ := word
  cases text with
  | nil => exact absurd rfl nonempty
  | cons c rest =>
      refine ⟨c, rest, rfl, ?_⟩
      have notSigned := unsigned c rfl
      have notSpecial := plain c List.mem_cons_self
      simp only [List.mem_cons, List.not_mem_nil, or_false, not_or] at notSpecial ⊢
      grind

theorem Ready.word (scope : Scope) (word : Word)
    (ready : reader.Ready clauses failure occur (word.text ++ rest)) :
    ∃ after, Reaches scope reader after ∧
      after.InTerm clauses failure occur none .auto none word.text rest := by
  obtain ⟨c, others, isWord, begins⟩ := exists_cons_of_word word
  rw [isWord, List.cons_append] at ready
  obtain ⟨begun, first, inTerm⟩ := ready.beginTerm scope begins
  rw [← List.cons_append, ← isWord] at inTerm
  have plain : ∀ c ∈ word.text, c ∉ [' ', '\\', '"', '\'', '(', ')'] :=
    plain_of_subset word.plain (by simp)
  have noName : ∀ c ∈ word.text, isFieldDelimiter c = false := by
    intro c member
    have other := word.plain c member
    simp only [List.mem_cons, List.not_mem_nil, or_false, not_or] at other
    simp [isFieldDelimiter, other]
  exact ⟨_, first.trans (reaches_past_value inTerm.mode inTerm.enclosure plain (.inr noName)
    inTerm.rest), inTerm.past⟩

theorem InTerm.quotation (scope : Scope) (quotation : Quotation)
    (inTerm : reader.InTerm clauses failure occur field kind none [] (quotation.text ++ rest)) :
    ∃ after, Reaches scope reader after ∧
      after.InTerm clauses failure occur field kind none quotation.text rest := by
  have atStart : reader.cursor.atSpanStart := by
    have nothing := inTerm.span
    simp only [Cursor.spanText?, Option.map_eq_some_iff, List.reverse_eq_nil_iff,
      exists_eq_right] at nothing
    simp [Cursor.atSpanStart, nothing]
  exact ⟨_, reaches_past_quotation inTerm.mode inTerm.enclosure quotation atStart inTerm.rest,
    inTerm.past⟩

theorem InTerm.value (scope : Scope) (value : Value) {name : Text}
    (inTerm : reader.InTerm clauses failure occur (some name) kind none [] (value.text ++ rest)) :
    ∃ after, Reaches scope reader after ∧
      after.InTerm clauses failure occur (some name) kind none value.text rest := by
  cases value with
  | quoted quotation => exact inTerm.quotation scope quotation
  | plain value =>
      have named : reader.field.isSome := by
        rw [inTerm.field]
        rfl
      exact ⟨_, reaches_past_value inTerm.mode inTerm.enclosure value.plain (.inl named)
        inTerm.rest, inTerm.past⟩

/-! ## Items that are terms -/

theorem Ready.reads_word (word : Word)
    (ready : reader.Ready clauses failure occur (word.text ++ (Text.spaces gap ++ following)))
    (apart : 0 < gap ∨ following = []) :
    reader.Reads scope clauses failure occur
      (scope.settings.onDefaultFields ⟨Text.trim word.text, false⟩) following := by
  obtain ⟨middle, reached, inTerm⟩ := Ready.word scope word ready
  have isBuilt := scope.settings.buildTerm_word .auto word
  exact Reads.after reached (inTerm.ends apart isBuilt.symm)

theorem Ready.reads_quotation (quotation : Quotation)
    (ready : reader.Ready clauses failure occur (quotation.text ++ (Text.spaces gap ++ following)))
    (apart : 0 < gap ∨ following = []) :
    reader.Reads scope clauses failure occur
      (scope.settings.onDefaultFields ⟨quotation.content, true⟩) following := by
  have begins : quotation.mark ∉ [' ', '\\', '+', '-', '('] := by
    have isMark := quotation.isMark
    simp only [Text.isQuote, Bool.or_eq_true, beq_iff_eq] at isMark
    rcases isMark with isMark | isMark <;> rw [isMark] <;> decide
  obtain ⟨begun, first, inTerm⟩ := Ready.beginTerm scope ready begins
  obtain ⟨middle, second, inTerm⟩ := InTerm.quotation scope quotation inTerm
  have isBuilt := scope.settings.buildTerm_quotation .auto quotation
  exact Reads.after (first.trans second) (inTerm.ends apart isBuilt.symm)

theorem FieldValue.no_sigil {value : FieldValue} (absent : value.sigil = none)
    (apart : 0 < gap ∨ following = []) :
    (value.value.text ++ (Text.spaces gap ++ following)).head?.bind Sigil.ofChar? = none := by
  obtain ⟨sigil, value, unmistakable⟩ := value
  cases value with
  | quoted quotation =>
      have isMark := quotation.isMark
      simp only [Text.isQuote, Bool.or_eq_true, beq_iff_eq] at isMark
      change Sigil.ofChar? quotation.mark = none
      rcases isMark with isMark | isMark <;> rw [isMark] <;> rfl
  | plain value =>
      cases text : value.text with
      | nil =>
          simp only [Value.text, text, List.nil_append]
          rcases apart with positive | rfl
          · obtain ⟨count, rfl⟩ := Nat.exists_eq_add_one.2 positive
            rfl
          · cases gap <;> rfl
      | cons c rest =>
          have plain := value.plain c (text ▸ List.mem_cons_self)
          have notSigil := unmistakable absent value rfl c (by rw [text]; rfl)
          simp only [List.mem_cons, List.not_mem_nil, or_false, not_or] at plain notSigil
          simp only [Value.text, text, List.cons_append, List.head?_cons, Option.bind_some]
          unfold Sigil.ofChar?
          split <;> simp_all

theorem Ready.reads_field (name : FieldName) (value : FieldValue)
    (ready : reader.Ready clauses failure occur
      (name.text ++ ':' :: value.text ++ (Text.spaces gap ++ following)))
    (apart : 0 < gap ∨ following = []) :
    reader.Reads scope clauses failure occur
      (scope.settings.onField (Text.trim name.text) value.kind value.value.literal) following := by
  rw [List.append_assoc, List.cons_append] at ready
  obtain ⟨begun, first, inTerm⟩ := Ready.word scope name.toWord ready
  obtain ⟨named, second, inTerm⟩ := InTerm.name scope inTerm name.named
  have sigilled : (named.sigilled scope).InTerm clauses failure occur
      (some (Text.trim name.text)) value.kind none []
      (value.value.text ++ (Text.spaces gap ++ following)) := by
    cases sigil : value.sigil with
    | none =>
        simp only [FieldValue.text, sigil, Option.map_none, Option.toList_none,
          List.nil_append] at inTerm
        rw [FieldValue.kind, sigil]
        exact inTerm.sigilled_none scope (FieldValue.no_sigil sigil apart)
    | some sign =>
        simp only [FieldValue.text, sigil, Option.map_some, Option.toList_some,
          List.cons_append, List.nil_append] at inTerm
        rw [FieldValue.kind, sigil]
        exact inTerm.sigilled_value scope
  obtain ⟨middle, third, inTerm⟩ := InTerm.value scope value.value sigilled
  have isBuilt := scope.settings.buildTerm_value (Text.trim name.text) value
  exact Reads.after ((first.trans second).trans third) (inTerm.ends apart isBuilt.symm)

/-! ## Literals in parentheses -/

end Reader

theorem Enclosure.after_parens {atStart : Bool} {depth level : Nat} {c : Char}
    (counted : level + [c].count ')' = [c].count '(' + depth) :
    Enclosure.after atStart c (some (.parens (depth + 1))) = some (.parens (level + 1)) := by
  by_cases isOpening : c = '('
  · subst isOpening
    obtain rfl : level = depth + 1 := by simpa [Nat.add_comm] using counted
    rfl
  · by_cases isClosing : c = ')'
    · subst isClosing
      obtain rfl : depth = level + 1 := by simpa using counted.symm
      rfl
    · obtain rfl : level = depth := by simpa [isOpening, isClosing] using counted
      simp [Enclosure.after, isOpening, isClosing, Reader.quoteInTerm]

namespace Reader

variable {scope : Scope} {clauses : Clauses} {failure : Option Failure} {occur : Occur}
  {field : Option Text} {kind : MatchKind} {depth level gap : Nat} {span text rest following : Text}
  {c : Char} {reader : Reader}

theorem InTerm.escape (scope : Scope) {enclosure : Option Enclosure}
    (inTerm : reader.InTerm clauses failure occur field kind enclosure span ('\\' :: c :: rest)) :
    ∃ after, Reaches scope reader after ∧
      after.InTerm clauses failure occur field kind enclosure (span ++ ['\\', c]) rest := by
  have atEscape : reader.cursor.rest.head? = some '\\' := by rw [inTerm.rest]; rfl
  have running : reader.mode ≠ .done := by
    rw [inTerm.mode]
    rintro ⟨⟩
  exact ⟨reader.past ['\\', c], .move (.escape running atEscape),
    @InTerm.past _ _ _ _ _ _ _ ['\\', c] _ _ inTerm⟩

theorem InTerm.lone_backslash (scope : Scope) {enclosure : Option Enclosure}
    (inTerm : reader.InTerm clauses failure occur field kind enclosure span ['\\']) :
    ∃ after, Reaches scope reader after ∧
      after.InTerm clauses failure occur field kind enclosure (span ++ ['\\']) [] := by
  have atEscape : reader.cursor.rest.head? = some '\\' := by rw [inTerm.rest]; rfl
  have running : reader.mode ≠ .done := by
    rw [inTerm.mode]
    rintro ⟨⟩
  have behind : reader.ahead.InTerm clauses failure occur field kind enclosure (span ++ ['\\']) [] :=
    @InTerm.past _ _ _ _ _ _ _ ['\\'] _ _ inTerm
  have rest : reader.ahead.ahead.cursor.rest = [] :=
    (Cursor.rest_next _).trans (congrArg List.tail behind.rest)
  exact ⟨_, .move (.escape running atEscape), { behind with
    span := (Cursor.spanText?_next_of_nil behind.rest).trans behind.span, rest }⟩

theorem InTerm.content (scope : Scope) {enclosure : Enclosure} {after : Option Enclosure}
    (inTerm : reader.InTerm clauses failure occur field kind (some enclosure) span (c :: rest))
    (notEscape : c ≠ '\\')
    (becomes : ∀ atStart, Enclosure.after atStart c (some enclosure) = after) :
    ∃ next, Reaches scope reader next ∧
      next.InTerm clauses failure occur field kind after (span ++ [c]) rest := by
  -- A character inside of an enclosure belongs to the value.
  have inside : reader.enclosure.isSome := by
    rw [inTerm.enclosure]
    rfl
  have move : Move scope reader { reader.ahead with enclosure := after } :=
    move_content inTerm.mode inTerm.rest notEscape (fun _ => inside) (fun _ => .inl inside)
      (by rw [inTerm.enclosure, becomes])
  have behind := @InTerm.past _ _ _ _ _ _ _ [c] _ _ inTerm
  exact ⟨_, .move move, { behind with enclosure := rfl }⟩

theorem InTerm.nested (scope : Scope) {span : Text}
    (inTerm : reader.InTerm clauses failure occur field kind (some (.parens (depth + 1))) span
      (text ++ rest))
    (nested : Text.Nested depth text) (complete : text.endsInEscape = false ∨ rest = [])
    (counted : level + text.outsideEscapes.count ')' = text.outsideEscapes.count '(' + depth) :
    ∃ after, Reaches scope reader after ∧
      after.InTerm clauses failure occur field kind (some (.parens (level + 1))) (span ++ text)
        rest := by
  induction text using Text.escapes_induction generalizing reader depth span with
  | nil =>
      obtain rfl : level = depth := by simpa [Text.outsideEscapes] using counted
      rw [List.append_nil]
      exact ⟨reader, .refl, inTerm⟩
  | lone =>
      obtain rfl : rest = [] := complete.resolve_left (by simp [Text.endsInEscape])
      obtain rfl : level = depth := by simpa [Text.outsideEscapes] using counted
      exact InTerm.lone_backslash scope inTerm
  | pair c text ih =>
      obtain ⟨middle, first, inTerm⟩ := InTerm.escape scope inTerm
      obtain ⟨after, others, inTerm⟩ := ih inTerm nested complete counted
      rw [List.append_assoc] at inTerm
      exact ⟨after, first.trans others, inTerm⟩
  | plain c text notEscape ih =>
      obtain ⟨next, step, nested⟩ := nested.exists_level notEscape
      rw [Text.endsInEscape_cons notEscape] at complete
      rw [Text.outsideEscapes_cons notEscape, ← List.singleton_append, List.count_append,
        List.count_append] at counted
      obtain ⟨middle, first, inTerm⟩ :=
        InTerm.content scope inTerm notEscape fun _ => Enclosure.after_parens step
      obtain ⟨after, others, inTerm⟩ := ih inTerm nested complete (by omega)
      rw [List.append_assoc] at inTerm
      exact ⟨after, first.trans others, inTerm⟩

/-- The literal of a field is read up to its end, with the parentheses open that its text leaves
open. -/
theorem Ready.reaches_nested (scope : Scope) (name : FieldName)
    (ready : reader.Ready clauses failure occur (name.text ++ ':' :: '(' :: (text ++ rest)))
    (nested : Text.Nested 0 text) (complete : text.endsInEscape = false ∨ rest = [])
    (counted : level + text.outsideEscapes.count ')' = text.outsideEscapes.count '(') :
    ∃ after, Reaches scope reader after ∧
      after.InTerm clauses failure occur (some (Text.trim name.text)) (.sigil .freeText)
        (some (.parens (level + 1))) ('(' :: text) rest := by
  obtain ⟨begun, first, inTerm⟩ := Ready.word scope name.toWord ready
  obtain ⟨named, second, inTerm⟩ := InTerm.name scope inTerm name.named
  have sigilled := inTerm.sigilled_freeText scope
  obtain ⟨opened, third, inTerm⟩ := InTerm.content scope sigilled (by decide) fun _ => rfl
  obtain ⟨after, fourth, inTerm⟩ := InTerm.nested scope inTerm nested complete counted
  exact ⟨after, ((first.trans second).trans third).trans fourth, inTerm⟩

theorem Ready.reads_freeText (name : FieldName) (nested : Text.Nested 0 text)
    (complete : text.endsInEscape = false)
    (balanced : text.outsideEscapes.count ')' = text.outsideEscapes.count '(')
    (ready : reader.Ready clauses failure occur
      (name.text ++ ':' :: '(' :: text ++ [')'] ++ (Text.spaces gap ++ following)))
    (apart : 0 < gap ∨ following = []) :
    reader.Reads scope clauses failure occur
      (scope.settings.onField (Text.trim name.text) (.sigil .freeText) ⟨Text.trim text, false⟩)
      following := by
  simp only [List.append_assoc, List.cons_append, List.nil_append] at ready
  obtain ⟨inside, first, inTerm⟩ :=
    ready.reaches_nested scope name nested (.inl complete) ((Nat.zero_add _).trans balanced)
  obtain ⟨outside, second, inTerm⟩ := InTerm.content scope inTerm (by decide) fun _ => rfl
  have isBuilt := scope.settings.buildTerm_freeText (Text.trim name.text)
    (FreeText.ofRaw_closed nested complete balanced)
  exact Reads.after (first.trans second) (inTerm.ends apart isBuilt.symm)

end Reader

end SearchQuery
