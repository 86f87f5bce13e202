import SearchQuery.Proofs.FirstGroup
import SearchQuery.Proofs.Resuming

/-! # Fields without a colon

A sigil behind the name of a field stands for a colon and the sigil. The colon is one byte more,
and that is the only difference: the name is read to the same field, the text behind the sigil by
readers that know the same, and a group around the field ends at the same parenthesis, so that its
text is again the same but for the colon.
-/

namespace SearchQuery

/-- The failure if one byte more stands in front of the given place. -/
def Failure.movedFrom (place : Nat) : Failure → Failure
  | .unclosedGroup offset => .unclosedGroup (if place ≤ offset then offset + 1 else offset)
  | .nestedTooDeep limit => .nestedTooDeep limit
  | .rejected rejection => .rejected rejection

namespace Failure

variable {place : Nat} {failure : Failure}

@[simp] theorem isFatal_movedFrom (place : Nat) (failure : Failure) :
    (failure.movedFrom place).isFatal = failure.isFatal := by
  cases failure <;> rfl

theorem movedFrom_of_not_fatal (notFatal : failure.isFatal = false) :
    failure.movedFrom place = failure := by
  -- Only a failure that ends the reading names a place.
  cases failure with
  | rejected => rfl
  | unclosedGroup | nestedTooDeep => cases notFatal

theorem movedFrom_shifted {bytes : Nat} (behind : place ≤ bytes) (failure : Failure) :
    (failure.shifted { bytes }).movedFrom place = failure.shifted { bytes := bytes + 1 } := by
  cases failure with
  | unclosedGroup offset =>
      rw [shifted, movedFrom, if_pos (Nat.le_add_left_of_le behind)]
      rfl
  | nestedTooDeep | rejected => rfl

theorem map_movedFrom_of_not_fatal {failure : Option Failure}
    (notFatal : ∀ other, failure = some other → other.isFatal = false) :
    failure.map (movedFrom place) = failure := by
  cases failure with
  | none => rfl
  | some failure => exact congrArg some (movedFrom_of_not_fatal (notFatal failure rfl))

theorem map_movedFrom_orElse {bytes : Nat} {fatal other : Option Failure} (behind : place ≤ bytes)
    (notFatal : fatal = none → ∀ failure, other = some failure → failure.isFatal = false) :
    (fatal.map (shifted { bytes }) <|> other).map (movedFrom place) =
      (fatal.map (shifted { bytes := bytes + 1 }) <|> other) := by
  cases fatal with
  | none => exact map_movedFrom_of_not_fatal (notFatal rfl)
  | some fatal => exact congrArg some (movedFrom_shifted behind fatal)

end Failure

namespace GroupText

/-- Characters that neither end the text of a group nor hide the end of it. -/
def IsPlain (c : Char) : Prop := c ∉ ['\\', ')'] ∧ ¬ Text.isQuote c

variable {previous c : Char} {depth : Nat} {front rest : Text}

theorem cut?_plain (previous : Char) (depth : Nat) (rest : Text) (plain : IsPlain c) :
    cut? previous none depth (c :: rest) =
      (cut? c none (if c = '(' then depth + 1 else depth) rest).map (behind [c]) := by
  obtain ⟨ordinary, notQuote⟩ := plain
  have notEscape : c ≠ '\\' := by
    rintro rfl
    exact ordinary (by decide)
  have notClosing : c ≠ ')' := by
    rintro rfl
    exact ordinary (by decide)
  rw [cut?]
  · rw [if_neg notQuote]
    split <;> rfl
  · simp [notEscape]
  · simp [notEscape]

theorem cut?_past (previous : Char) (depth : Nat) (rest : Text)
    (plain : ∀ other ∈ front ++ [c], IsPlain other) :
    cut? previous none depth (front ++ c :: rest) =
      (cut? c none (depth + (front ++ [c]).count '(') rest).map (behind (front ++ [c])) := by
  induction front generalizing previous depth with
  | nil =>
      rw [List.nil_append, cut?_plain previous depth rest (plain c (by simp))]
      by_cases isOpening : c = '(' <;> simp [isOpening]
  | cons first front ih =>
      rw [List.cons_append, cut?_plain previous depth _ (plain first (by simp)),
        ih first _ fun other there => plain other (by simp_all), map_behind_map_behind]
      by_cases isOpening : first = '('
      · simp [isOpening, Nat.add_assoc, Nat.add_comm 1]
      · simp [isOpening]

theorem close?_colon (rest : Text) (plain : ∀ other ∈ front ++ [c], IsPlain other) :
    close? (front ++ c :: rest) = none ∧ close? (front ++ ':' :: c :: rest) = none ∨
      ∃ body following, close? (front ++ c :: rest) = some (front ++ c :: body, following) ∧
        close? (front ++ ':' :: c :: rest) = some (front ++ ':' :: c :: body, following) := by
  have isColon : IsPlain ':' := ⟨by decide, by decide⟩
  have stillPlain : ∀ other ∈ front ++ [':'] ++ [c], IsPlain other := by
    intro other there
    by_cases colon : other = ':'
    · exact colon ▸ isColon
    · exact plain other (by simpa [colon] using there)
  have first := cut?_past '(' 1 rest plain
  have second := cut?_past '(' 1 rest stillPlain
  have sameCount : (front ++ [':'] ++ [c]).count '(' = (front ++ [c]).count '(' := by
    simp [List.count_append]
  rw [sameCount, List.append_assoc, List.singleton_append] at second
  rw [close?, close?, first, second]
  cases cut? c none (1 + (front ++ [c]).count '(') rest with
  | none => exact .inl ⟨rfl, rfl⟩
  | some cut => exact .inr ⟨cut.1, cut.2, by simp [behind], by simp [behind]⟩

end GroupText

theorem ValueSigil.utf8Size_char (sigil : ValueSigil) : sigil.char.utf8Size = 1 := by
  cases sigil <;> rfl

namespace Reader

variable {settings : Settings} {scope : Scope} {depth base place : Nat} {clauses : Clauses}
  {failure : Option Failure} {occur : Occur} {front span rest : Text}
  {reader first second : Reader}

/-- Two readers come to the same but for the places behind the given one. -/
def EndAlike (scope : Scope) (place : Nat) (first second : Reader) : Prop :=
  ∃ clauses failure, first.Ends scope clauses failure ∧
    second.Ends scope clauses (failure.map (Failure.movedFrom place))

theorem EndAlike.after {middle other : Reader} (reached : Reaches scope first middle)
    (stillReached : Reaches scope second other) (alike : EndAlike scope place middle other) :
    EndAlike scope place first second := by
  obtain ⟨clauses, failure, ends, stillEnds⟩ := alike
  exact ⟨clauses, failure, ends.after reached, stillEnds.after stillReached⟩

/-! ## Readers that know the same -/

theorem ends_of_restart (base : Nat) {parsed : Parsed}
    (outside : ∀ group, reader.mode ≠ .group group)
    (span : reader.cursor.spanText? = some [])
    (ran : reader.restart.run? (settings.scope depth 0) = some parsed) :
    reader.Ends (settings.scope depth base) (reader.clauses.append parsed.clauses)
      (parsed.fatal?.map
          (Failure.shifted { bytes := base + Text.byteSize reader.cursor.committed }) <|>
        (reader.failure <|> parsed.failure)) := by
  obtain ⟨last, reached, done, same⟩ :=
    exists_done_of_run? (run?_of_restart outside span (Nat.zero_add _).symm ran)
  exact ⟨last, reached, done, congrArg Parsed.clauses same,
    (congrArg Parsed.failure same).trans (Parsed.failure_joined_shifted _ _)⟩

/-- What readers come to that go on alike, if the text in front is a byte longer for the second. -/
theorem EndAlike.of_restart {before longer : Text}
    (reached : Reaches (settings.scope depth base) (ofText (before ++ rest)) first)
    (stillReached : Reaches (settings.scope depth base) (ofText (longer ++ rest)) second)
    (outside : first.mode = .between ∨ first.mode = .term)
    (span : first.cursor.spanText? = some []) (stillSpan : second.cursor.spanText? = some [])
    (isRest : first.cursor.rest = rest) (same : second.restart = first.restart)
    (clauses : second.clauses = first.clauses) (failure : second.failure = first.failure)
    (size : Text.byteSize longer = Text.byteSize before + 1)
    (behind : place ≤ base + Text.byteSize before) :
    EndAlike (settings.scope depth base) place first second := by
  have sameMode : second.mode = first.mode :=
    show second.restart.mode = first.restart.mode by rw [same]
  have sameRest : second.cursor.rest = first.cursor.rest :=
    show second.restart.cursor.rest = first.restart.cursor.rest by rw [same]
  have outsideGroups : ∀ group, first.mode ≠ .group group := by
    rcases outside with mode | mode <;> simp [mode]
  have running : first.mode ≠ .done := by
    rcases outside with mode | mode <;> simp [mode]
  obtain ⟨parsed, ran⟩ := Option.isSome_iff_exists.1
    (@isSome_run? (settings.scope depth 0) isSome_enter_scope first.restart
      (regular_restart outsideGroups).sound)
  have ends := ends_of_restart base outsideGroups span ran
  rw [← same] at ran
  have stillEnds := ends_of_restart base (sameMode ▸ outsideGroups) stillSpan ran
  rw [byteSize_committed_of_span reached span isRest] at ends
  rw [byteSize_committed_of_span stillReached stillSpan (sameRest.trans isRest), clauses, failure,
    size, ← Nat.add_assoc] at stillEnds
  have notFatal : parsed.fatal? = none → ∀ other,
      (first.failure <|> parsed.failure) = some other → other.isFatal = false := fun nothing =>
    not_fatal_orElse (reached.unbroken running) (Parsed.fatal?_eq_none_iff.1 nothing)
  rw [← Failure.map_movedFrom_orElse behind notFatal] at stillEnds
  exact ⟨_, _, ends, stillEnds⟩

theorem InTerm.restart_eq {field : Option Text} {kind : MatchKind} {enclosure : Option Enclosure}
    (inTerm : reader.InTerm clauses failure occur field kind enclosure span rest) :
    reader.restart = { ofText rest with mode := .term, occur, field, kind, enclosure } := by
  rw [restart, inTerm.mode, inTerm.occur, inTerm.field, inTerm.kind, inTerm.enclosure,
    inTerm.rest]

/-! ## The name of a field -/

theorem InTerm.name_sigil (scope : Scope) (sigil : ValueSigil)
    (inTerm : reader.InTerm clauses failure occur none .auto none span (sigil.char :: rest))
    (nonempty : Text.trim span ≠ []) :
    ∃ after, Reaches scope reader after ∧
      after.InTerm clauses failure occur (some (Text.trim span)) (.sigil sigil.toSigil) none []
        rest := by
  have atCursor : reader.cursor.rest.head? = some sigil.char := by rw [inTerm.rest]; rfl
  have delimiter : isFieldDelimiter sigil.char ∧ sigil.char ≠ ':' := by cases sigil <;> decide
  have value : reader.cursor.value? = some (Text.trim span) := by
    rw [Cursor.value?, inTerm.span, Option.map_some]
  have named : (committing scope .field span
      { reader.still with field := some (Text.trim span) }).InTerm clauses failure occur
      (some (Text.trim span)) .auto none [] (sigil.char :: rest) :=
    { mode := inTerm.mode, span := rfl, rest := inTerm.rest, clauses := inTerm.clauses
      failure := inTerm.failure, occur := inTerm.occur, field := rfl, kind := inTerm.kind
      enclosure := inTerm.enclosure }
  have move : Move scope reader _ := .name inTerm.mode atCursor delimiter.1 inTerm.enclosure
    inTerm.field value nonempty (if_neg delimiter.2).symm inTerm.span
  exact ⟨_, .move move, named.sigilled_value scope⟩

theorem Begun.endAlike_field (name : FieldName) (sigil : ValueSigil)
    (isFirst : first.Begun settings depth base front occur (name.text ++ sigil.char :: rest))
    (isSecond : second.Begun settings depth base front occur
      (name.text ++ ':' :: sigil.char :: rest))
    (behind : place ≤ base + Text.byteSize (front ++ name.text) + 1) :
    EndAlike (settings.scope depth base) place first second := by
  obtain ⟨atSigil, begins, inTerm⟩ :=
    Ready.word (settings.scope depth base) name.toWord isFirst.ready
  obtain ⟨valued, names, inTerm⟩ :=
    inTerm.name_sigil (settings.scope depth base) sigil name.named
  obtain ⟨atColon, stillBegins, stillInTerm⟩ :=
    Ready.word (settings.scope depth base) name.toWord isSecond.ready
  obtain ⟨named, stillNames, stillInTerm⟩ :=
    InTerm.name (settings.scope depth base) stillInTerm name.named
  have stillInTerm := stillInTerm.sigilled_value (settings.scope depth base)
  have isText : front ++ (name.text ++ sigil.char :: rest) =
      front ++ name.text ++ [sigil.char] ++ rest := by simp
  have isOther : front ++ (name.text ++ ':' :: sigil.char :: rest) =
      front ++ name.text ++ [':', sigil.char] ++ rest := by simp
  have reached := isFirst.reached.trans (begins.trans names)
  have stillReached := isSecond.reached.trans (stillBegins.trans stillNames)
  rw [isText] at reached
  rw [isOther] at stillReached
  have width := sigil.utf8Size_char
  have colon : Char.utf8Size ':' = 1 := rfl
  have size : Text.byteSize (front ++ name.text ++ [':', sigil.char]) =
      Text.byteSize (front ++ name.text ++ [sigil.char]) + 1 := by
    simp only [Text.byteSize_append, Text.byteSize_cons, Text.byteSize_nil, width, colon]
  have isBehind : place ≤ base + Text.byteSize (front ++ name.text ++ [sigil.char]) := by
    rw [Text.byteSize_append, ← Nat.add_assoc, Text.byteSize_cons, width]
    exact behind
  exact EndAlike.after (begins.trans names) (stillBegins.trans stillNames)
    (.of_restart reached stillReached (.inr inTerm.mode) inTerm.span stillInTerm.span inTerm.rest
      (stillInTerm.restart_eq.trans inTerm.restart_eq.symm)
      (stillInTerm.clauses.trans inTerm.clauses.symm)
      (stillInTerm.failure.trans inTerm.failure.symm) size isBehind)

/-! ## Groups around the field -/

theorem Begun.endAlike_group {text other body longer following : Text}
    (isFirst : first.Begun settings depth base front occur ('(' :: text))
    (isSecond : second.Begun settings depth base front occur ('(' :: other))
    (closed : GroupText.close? text = some (body, following))
    (stillClosed : GroupText.close? other = some (longer, following))
    (size : Text.byteSize longer = Text.byteSize body + 1)
    (behind : place ≤ base + Text.byteSize (front ++ '(' :: body))
    (inner : EndAlike (settings.scope (depth + 1) (base + (Text.byteSize front + 1))) place
        (ofText body) (ofText longer)) :
    EndAlike (settings.scope depth base) place first second := by
  obtain ⟨closing, reached, atClosing⟩ := isFirst.exists_atClosing closed
  obtain ⟨stillClosing, stillReached, stillAtClosing⟩ := isSecond.exists_atClosing stillClosed
  apply EndAlike.after reached stillReached
  by_cases allowed : depth < settings.maxDepth
  · obtain ⟨clauses, failure, ends, stillEnds⟩ := inner
    obtain ⟨isClauses, isFailure⟩ := parseAt_of_ends ends
    obtain ⟨stillClauses, stillFailure⟩ := parseAt_of_ends stillEnds
    by_cases failed : ∃ fatal, failure = some fatal ∧ fatal.isFatal
    · obtain ⟨fatal, rfl, isFatal⟩ := failed
      have stillFatal := (fatal.isFatal_movedFrom place).trans isFatal
      exact ⟨{}, some fatal, atClosing.ends_failed allowed isFailure isFatal,
        stillAtClosing.ends_failed allowed stillFailure stillFatal⟩
    · have notFatal : ∀ other, failure = some other → other.isFatal = false := by
        intro other isOther
        exact Bool.eq_false_iff.2 fun isFatal => failed ⟨other, isOther, isFatal⟩
      rw [Failure.map_movedFrom_of_not_fatal notFatal] at stillFailure
      obtain ⟨after, leaves, ready⟩ := atClosing.exists_ready allowed rfl fun other failed =>
        notFatal other (isFailure.symm.trans failed)
      obtain ⟨stillAfter, stillLeaves, stillReady⟩ :=
        stillAtClosing.exists_ready allowed rfl fun other failed =>
          notFatal other (stillFailure.symm.trans failed)
      rw [isClauses, isFailure] at ready
      rw [stillClauses, stillFailure] at stillReady
      refine EndAlike.after leaves stillLeaves (.of_restart (atClosing.reached.trans leaves)
        (stillAtClosing.reached.trans stillLeaves) (.inl ready.mode) ready.span stillReady.span
        ready.rest (stillReady.restart_eq.trans ready.restart_eq.symm)
        (stillReady.clauses.trans ready.clauses.symm)
        (stillReady.failure.trans ready.failure.symm) ?_ ?_)
      all_goals
        simp only [Text.byteSize_append, Text.byteSize_cons] at behind ⊢
        omega
  · exact ⟨{}, some (.nestedTooDeep settings.maxDepth),
      atClosing.ends_tooDeep (Nat.not_lt.1 allowed),
      stillAtClosing.ends_tooDeep (Nat.not_lt.1 allowed)⟩

theorem Begun.endAlike_unclosed {text other : Text}
    (isFirst : first.Begun settings depth base front occur ('(' :: text))
    (isSecond : second.Begun settings depth base front occur ('(' :: other))
    (unclosed : GroupText.close? text = none) (stillUnclosed : GroupText.close? other = none)
    (behind : base + Text.byteSize front < place) :
    EndAlike (settings.scope depth base) place first second := by
  have stillEnds := isSecond.ends_unclosed stillUnclosed
  have inFront : (Failure.unclosedGroup (base + Text.byteSize front)).movedFrom place =
      .unclosedGroup (base + Text.byteSize front) := by
    rw [Failure.movedFrom, if_neg (Nat.not_le.2 behind)]
  rw [← inFront] at stillEnds
  exact ⟨{}, _, isFirst.ends_unclosed unclosed, stillEnds⟩

theorem isPlain_field {opening : Text} (opens : ∀ c ∈ opening, c ∈ [' ', '+', '-', '('])
    (name : FieldName) (sigil : ValueSigil) :
    ∀ c ∈ opening ++ name.text ++ [sigil.char], GroupText.IsPlain c := by
  intro c there
  rcases List.mem_append.1 there with there | isSigil
  · rcases List.mem_append.1 there with there | there
    · have isOne := opens c there
      simp only [List.mem_cons, List.not_mem_nil, or_false] at isOne
      rcases isOne with rfl | rfl | rfl | rfl <;> exact ⟨by decide, by decide⟩
    · have plain := name.plain c there
      simp only [List.mem_cons, List.not_mem_nil, or_false, not_or] at plain
      exact ⟨by simp [plain], by simp [Text.isQuote, plain]⟩
  · rw [List.mem_singleton.1 isSigil]
    cases sigil <;> exact ⟨by decide, by decide⟩

theorem Begun.endAlike (opening : Text) (opens : ∀ c ∈ opening, c ∈ [' ', '+', '-', '('])
    (name : FieldName) (sigil : ValueSigil) {rest : Text}
    (isFirst : first.Begun settings depth base front occur
      (opening ++ (name.text ++ sigil.char :: rest)))
    (isSecond : second.Begun settings depth base front occur
      (opening ++ (name.text ++ ':' :: sigil.char :: rest)))
    (isPlace : place = base + Text.byteSize (front ++ opening ++ name.text) + 1) :
    EndAlike (settings.scope depth base) place first second := by
  -- The induction is on what stands in front of the field. A parenthesis there begins a group of
  -- both texts, in which what is in front of the field is shorter.
  induction opening generalizing depth base front occur rest first second with
  | nil =>
      rw [List.append_nil] at isPlace
      exact isFirst.endAlike_field name sigil isSecond (Nat.le_of_eq isPlace)
  | cons c opening ih =>
      have opens' : ∀ c ∈ opening, c ∈ [' ', '+', '-', '('] :=
        fun other there => opens other (List.mem_cons_of_mem c there)
      have marked : ∀ {kind next}, Mark occur c kind next →
          EndAlike (settings.scope depth base) place first second := by
        intro kind next mark
        obtain ⟨after, reached, begun⟩ := isFirst.mark mark
        obtain ⟨stillAfter, stillReached, stillBegun⟩ := isSecond.mark mark
        refine .after reached stillReached (ih opens' begun stillBegun ?_)
        rw [isPlace, List.append_cons front c opening]
      have isOne := opens c List.mem_cons_self
      simp only [List.mem_cons, List.not_mem_nil, or_false] at isOne
      rcases isOne with rfl | rfl | rfl | rfl
      · exact marked .blank
      · exact marked .must
      · exact marked .mustNot
      · have plain := isPlain_field opens' name sigil
        have parenthesis : Char.utf8Size '(' = 1 := rfl
        have colon : Char.utf8Size ':' = 1 := rfl
        have size : place = base + Text.byteSize front + 1 +
            Text.byteSize (opening ++ name.text) + 1 := by
          simp only [isPlace, Text.byteSize_append, Text.byteSize_cons, parenthesis]
          omega
        have closing := GroupText.close?_colon rest plain
        simp only [List.append_assoc] at closing
        rcases closing with ⟨unclosed, stillUnclosed⟩ | ⟨body, following, closed, stillClosed⟩
        · exact isFirst.endAlike_unclosed isSecond unclosed stillUnclosed (by omega)
        · refine isFirst.endAlike_group isSecond closed stillClosed ?_ ?_
            (ih opens' (begun_ofText _ _ _ _) (begun_ofText _ _ _ _) ?_)
          · simp only [Text.byteSize_append, Text.byteSize_cons, colon]
            omega
          · simp only [size, Text.byteSize_append, Text.byteSize_cons, parenthesis]
            have positive := Char.utf8Size_pos sigil.char
            omega
          · rw [size, List.nil_append, Nat.add_assoc base]

end Reader

/-- A sigil behind the name of a field is read as a colon and the sigil, also in groups that are
open there and whatever comes behind. Only the places behind the sigil are one byte further on. -/
theorem parse_sigil_as_colon (settings : Settings) (opening : Text)
    (opens : ∀ c ∈ opening, c ∈ [' ', '+', '-', '(']) (name : FieldName) (sigil : ValueSigil)
    (rest : Text) :
    let front := opening ++ name.text
    let short := parse settings (front ++ sigil.char :: rest)
    let long := parse settings (front ++ ':' :: sigil.char :: rest)
    long.clauses = short.clauses ∧
      long.failure = short.failure.map
        (Failure.movedFrom (Text.byteSize (front ++ [sigil.char]))) := by
  intro front short long
  have isPlace : Text.byteSize (front ++ [sigil.char]) =
      0 + Text.byteSize ([] ++ opening ++ name.text) + 1 := by
    simp only [front, Text.byteSize_append, Text.byteSize_cons, Text.byteSize_nil,
      sigil.utf8Size_char, List.nil_append]
    omega
  have isFirst := Reader.begun_ofText settings 0 0 (opening ++ (name.text ++ sigil.char :: rest))
  have isSecond :=
    Reader.begun_ofText settings 0 0 (opening ++ (name.text ++ ':' :: sigil.char :: rest))
  obtain ⟨clauses, failure, ends, stillEnds⟩ :=
    isFirst.endAlike opening opens name sigil isSecond isPlace
  rw [← List.append_assoc] at ends stillEnds
  obtain ⟨isClauses, isFailure⟩ := Reader.parseAt_of_ends ends
  obtain ⟨stillClauses, stillFailure⟩ := Reader.parseAt_of_ends stillEnds
  have same : short.failure = failure := isFailure
  rw [same]
  exact ⟨stillClauses.trans isClauses.symm, stillFailure⟩

/-- In ` +(n=x) (y` the last group is not closed, and it is named one byte later with the colon. -/
theorem parse_sigil_as_colon_sample :
    let settings : Settings := { defaultFields := [['f']] }
    let opening : Text := [' ', '+', '(']
    let rest : Text := ['x', ')', ' ', '(', 'y']
    let short := parse settings (opening ++ ['n'] ++ '=' :: rest)
    let long := parse settings (opening ++ ['n'] ++ ':' :: '=' :: rest)
    (∀ c ∈ opening, c ∈ [' ', '+', '-', '(']) ∧ short.failure = some (.unclosedGroup 8) ∧
      long.clauses = short.clauses ∧ long.failure = some (.unclosedGroup 9) := by
  intro settings opening rest short long
  have opens : ∀ c ∈ opening, c ∈ [' ', '+', '-', '('] := by simp [opening]
  let name : FieldName := ⟨⟨['n'], by simp, by simp, by simp⟩, by decide⟩
  obtain ⟨clauses, failure⟩ := parse_sigil_as_colon settings opening opens name .keyword rest
  have failed : short.failure = some (.unclosedGroup 8) := by decide +kernel
  exact ⟨opens, failed, clauses, failure.trans (congrArg _ failed)⟩

end SearchQuery
