import SearchQuery.Proofs.Reading

/-! # Queries mean what is written

However a query is written, parsing the text gives the clauses that the query stands for and
reports the first value in it that is refused, as long as its groups do not lie in each other
deeper than allowed. If they do, that is what is reported.
-/

namespace SearchQuery

namespace Clauses

theorem append_clauses_empty (settings : Settings) (clauses : Clauses) :
    clauses.append (Query.empty.clauses settings) = clauses := by
  simp [append, Query.clauses, Query.occurring]

theorem add_append (settings : Settings) (clauses : Clauses) (occur : Occur) (item : Item)
    (rest : Query) :
    (clauses.add occur (item.meaning settings).clause).append (rest.clauses settings) =
      clauses.append ((Query.item occur item rest).clauses settings) := by
  cases occur <;> simp [append, add, Query.clauses, Query.occurring]

end Clauses

/-- What is reported about a query whose groups may be entered. -/
def Query.failure? (settings : Settings) (query : Query) : Option Failure :=
  (query.rejections settings).head?.map Failure.rejected

theorem Query.failure?_item (settings : Settings) (occur : Occur) (item : Item) (rest : Query) :
    (Query.item occur item rest).failure? settings =
      ((item.meaning settings).failure? <|> rest.failure? settings) := by
  simp [failure?, BuiltTerm.failure?, rejections, List.head?_append, Option.map_or]

theorem orElse_assoc (first second third : Option Failure) :
    ((first <|> second) <|> third) = (first <|> second <|> third) := by
  cases first <;> rfl

theorem Query.not_fatal {settings : Settings} {query : Query} {failure : Failure}
    (failed : query.failure? settings = some failure) : failure.isFatal = false := by
  rw [failure?, Option.map_eq_some_iff] at failed
  obtain ⟨rejection, -, rfl⟩ := failed
  rfl

namespace Reader

variable {settings : Settings} {depth base gap : Nat} {clauses : Clauses}
  {failure : Option Failure} {occur : Occur} {text following : Text} {reader : Reader}

/-- The reader comes to its end with these clauses and this failure. -/
def Ends (scope : Scope) (clauses : Clauses) (failure : Option Failure) (reader : Reader) : Prop :=
  ∃ last, Reaches scope reader last ∧ last.mode = .done ∧ last.clauses = clauses ∧
    last.failure = failure

theorem Ends.after {scope : Scope} {middle : Reader} (reached : Reaches scope reader middle)
    (ends : middle.Ends scope clauses failure) : reader.Ends scope clauses failure := by
  obtain ⟨last, further, ended⟩ := ends
  exact ⟨last, reached.trans further, ended⟩

theorem Ready.ends_of_nil {scope : Scope}
    (ready : reader.Ready clauses failure occur []) : reader.Ends scope clauses failure :=
  ⟨_, .move (.finish ready.mode ready.rest), rfl, ready.clauses, ready.failure⟩

theorem parseAt_of_ends (ends : (ofText text).Ends (settings.scope depth base) clauses failure) :
    (parseAt settings depth base text).clauses = clauses ∧
      (parseAt settings depth base text).failure = failure := by
  obtain ⟨last, reached, done, isClauses, isFailure⟩ := ends
  have ran : some last.parsed = some (parseAt settings depth base text) := by
    rw [← run?_of_done done, ← reached.run?_eq, run?_scope]
  rw [← Option.some.inj ran]
  exact ⟨isClauses, isFailure⟩

/-- A group is passed over up to the parenthesis that closes it. -/
theorem Ready.reaches_closing (scope : Scope) {query : Query} {leading : Nat}
    (listed : query.Listed text)
    (ready : reader.Ready clauses failure occur
      ('(' :: (Text.spaces leading ++ text) ++ ')' :: following)) :
    ∃ group closing, Reaches scope reader closing ∧ closing.mode = .group group ∧
      group.Closes ')' ∧ group.occur = occur ∧ closing.cursor.rest = ')' :: following ∧
      closing.cursor.spanText? = some (Text.spaces leading ++ text) ∧
      closing.clauses = clauses ∧ closing.failure = failure := by
  obtain ⟨offset, opened, opens, mode, previous, nothing, atBody, rfl, rfl⟩ :=
    ready.opensGroup scope
  have seeking : opened.Seeking { occur, offset }
      ((Text.spaces leading ++ text) ++ ')' :: following) := ⟨mode, rfl, Nat.one_pos, atBody⟩
  have boundary : opened.AtBoundary := by
    intro c isPrevious
    cases previous.symm.trans isPrevious
    exact isAlphanumeric_eq_false (by decide)
  rw [List.append_assoc] at seeking
  have inBody := atBoundary_past_spaces seeking.rest (.inr boundary)
  have passes : Reaches scope opened (opened.past (Text.spaces leading ++ text)) :=
    seeking.reaches_past_spaces.past_append (reaches_past_listed listed seeking.past inBody)
  rw [← List.append_assoc] at seeking
  exact ⟨_, _, (Reaches.move opens).trans passes, seeking.mode, ⟨rfl, rfl, rfl⟩, rfl,
    seeking.past.rest, Cursor.spanText?_past nothing seeking.rest, rfl, rfl⟩

theorem ready_leaving (scope : Scope) (occur : Occur) (body : Text) (inner : Parsed)
    {closing : Reader} (atCursor : closing.cursor.rest = ')' :: following) :
    (closing.still.leaving scope occur body inner).Ready
      (closing.clauses.add occur inner.clauses.toClause) (closing.failure <|> inner.failure)
      .should following := by
  constructor
  case rest => exact (Cursor.rest_commit _).trans (Cursor.rest_next_of_cons atCursor)
  all_goals rfl

mutual

theorem reads_item {item : Item} {text following : Text} {depth base gap : Nat} {clauses : Clauses}
    {failure : Option Failure} {occur : Occur} {reader : Reader} (written : item.Written text)
    (allowed : depth + item.depth ≤ settings.maxDepth)
    (ready : reader.Ready clauses failure occur (text ++ (Text.spaces gap ++ following)))
    (apart : 0 < gap ∨ following = []) :
    reader.Reads (settings.scope depth base) clauses failure occur (item.meaning settings)
      following := by
  cases written with
  | word word => exact ready.reads_word word apart
  | literal quotation => exact ready.reads_quotation quotation apart
  | field name value => exact ready.reads_field name value apart
  | freeText name text =>
      have balanced := text.property
      exact ready.reads_freeText name (balanced.nested 0) balanced.complete balanced.counted apart
  | @group query inner leading listed =>
      rw [Item.depth] at allowed
      have within : depth < settings.maxDepth := by omega
      have innerAllowed : (depth + 1) + query.depth ≤ settings.maxDepth := by omega
      have atGroup : reader.Ready clauses failure occur
          ('(' :: (Text.spaces leading ++ inner) ++ ')' :: (Text.spaces gap ++ following)) := by
        simpa using ready
      obtain ⟨group, closing, reached, mode, closes, rfl, atCursor, known, rfl, rfl⟩ :=
        atGroup.reaches_closing (settings.scope depth base) listed
      -- The body is the whole text of a reader of its own, one level deeper.
      have innerEnds : (ofText (Text.spaces leading ++ inner)).Ends
          (settings.scope (depth + 1) (base + closing.cursor.start)) (query.clauses settings)
          (query.failure? settings) :=
        ends_of_listed listed innerAllowed (ready_ofText _)
      obtain ⟨innerClauses, innerFailure⟩ := parseAt_of_ends innerEnds
      have leaves := Move.closeGroup mode (by rw [atCursor]; rfl) closes (enter?_scope_of_lt within)
        known rfl (fun other failed => Query.not_fatal (innerFailure.symm.trans failed))
      have ready := ready_leaving (settings.scope depth base) group.occur
        (Text.spaces leading ++ inner) (parseAt settings (depth + 1) (base + closing.cursor.start)
          (Text.spaces leading ++ inner)) atCursor
      rw [innerClauses, innerFailure] at ready
      exact ⟨_, gap, reached.trans (.move leaves), ready⟩

theorem ends_of_listed {query : Query} {text : Text} {depth base leading : Nat} {clauses : Clauses}
    {failure : Option Failure} {reader : Reader} (listed : query.Listed text)
    (allowed : depth + query.depth ≤ settings.maxDepth)
    (ready : reader.Ready clauses failure .should (Text.spaces leading ++ text)) :
    reader.Ends (settings.scope depth base) (clauses.append (query.clauses settings))
      (failure <|> query.failure? settings) := by
  obtain ⟨begun, first, ready⟩ := ready.spaces (settings.scope depth base)
  apply Ends.after first
  cases listed with
  | empty =>
      rw [Clauses.append_clauses_empty]
      simpa [Query.failure?, Query.rejections] using ready.ends_of_nil
  | @item occur item rest text following gap written listed apart =>
      rw [Query.depth] at allowed
      have itemAllowed : depth + item.depth ≤ settings.maxDepth := by omega
      have restAllowed : depth + rest.depth ≤ settings.maxDepth := by omega
      simp only [List.append_assoc] at ready
      obtain ⟨signed, second, ready⟩ := ready.sign (settings.scope depth base)
      obtain ⟨behind, left, third, ready⟩ := reads_item written itemAllowed ready apart
      apply Ends.after (second.trans third)
      rw [← Clauses.add_append, Query.failure?_item, ← orElse_assoc]
      exact ends_of_listed listed restAllowed ready

end

/-- The reader comes to its end with this failure. -/
def Fails (scope : Scope) (failure : Failure) (reader : Reader) : Prop :=
  ∃ clauses, reader.Ends scope clauses (some failure)

theorem Fails.after {scope : Scope} {middle : Reader} {fatal : Failure}
    (reached : Reaches scope reader middle) (fails : middle.Fails scope fatal) :
    reader.Fails scope fatal := by
  obtain ⟨clauses, ends⟩ := fails
  exact ⟨clauses, ends.after reached⟩

mutual

theorem fails_item {item : Item} {text following : Text} {depth base gap : Nat} {clauses : Clauses}
    {failure : Option Failure} {occur : Occur} {reader : Reader} (written : item.Written text)
    (within : depth ≤ settings.maxDepth) (tooDeep : settings.maxDepth < depth + item.depth)
    (ready : reader.Ready clauses failure occur (text ++ (Text.spaces gap ++ following))) :
    reader.Fails (settings.scope depth base) (.nestedTooDeep settings.maxDepth) := by
  cases written with
  | word | literal | field | freeText =>
      rw [Item.depth] at tooDeep
      omega
  | @group query inner leading listed =>
      rw [Item.depth] at tooDeep
      have atGroup : reader.Ready clauses failure occur
          ('(' :: (Text.spaces leading ++ inner) ++ ')' :: (Text.spaces gap ++ following)) := by
        simpa using ready
      obtain ⟨group, closing, reached, mode, closes, rfl, atCursor, known, rfl, rfl⟩ :=
        atGroup.reaches_closing (settings.scope depth base) listed
      have atClosing : closing.cursor.rest.head? = some ')' := by
        rw [atCursor]
        rfl
      by_cases allowed : depth < settings.maxDepth
      · have innerFails : (ofText (Text.spaces leading ++ inner)).Fails
            (settings.scope (depth + 1) (base + closing.cursor.start))
            (.nestedTooDeep settings.maxDepth) :=
          fails_listed listed allowed (by omega) (ready_ofText _)
        obtain ⟨innerClauses, innerEnds⟩ := innerFails
        have failed := (parseAt_of_ends innerEnds).2
        exact ⟨_, _, reached.trans (.move (.failInside mode atClosing closes
          (enter?_scope_of_lt allowed) known rfl failed rfl)), rfl, rfl, rfl⟩
      · have behind : closing.cursor.span?.isSome := Cursor.isSome_span?_of_spanText? known
        exact ⟨_, _, reached.trans (.move (.tooDeep mode atClosing closes
          (enter?_scope_of_le (Nat.not_lt.1 allowed)) behind)), rfl, rfl, rfl⟩

theorem fails_listed {query : Query} {text : Text} {depth base leading : Nat} {clauses : Clauses}
    {failure : Option Failure} {reader : Reader} (listed : query.Listed text)
    (within : depth ≤ settings.maxDepth) (tooDeep : settings.maxDepth < depth + query.depth)
    (ready : reader.Ready clauses failure .should (Text.spaces leading ++ text)) :
    reader.Fails (settings.scope depth base) (.nestedTooDeep settings.maxDepth) := by
  obtain ⟨begun, first, ready⟩ := ready.spaces (settings.scope depth base)
  apply Fails.after first
  cases listed with
  | empty =>
      rw [Query.depth] at tooDeep
      omega
  | @item occur item rest text following gap written listed apart =>
      rw [Query.depth] at tooDeep
      simp only [List.append_assoc] at ready
      obtain ⟨signed, second, ready⟩ := ready.sign (settings.scope depth base)
      apply Fails.after second
      -- The reading ends in the first item that is too deep; those before it are read.
      by_cases allowed : depth + item.depth ≤ settings.maxDepth
      · obtain ⟨behind, left, third, ready⟩ := reads_item written allowed ready apart
        apply Fails.after third
        exact fails_listed listed within (by omega) ready
      · exact fails_item written within (Nat.not_le.1 allowed) ready

end

end Reader

/-- Parsing a text as which a query can be written gives what the query means. The first value
in it that its field refuses is reported. If its groups lie in each other deeper than allowed,
that is what is reported. -/
theorem parse_written (settings : Settings) (query : Query) (text : Text)
    (written : query.Written text) :
    (query.depth ≤ settings.maxDepth →
      (parse settings text).clauses = query.clauses settings ∧
      (parse settings text).failure = (query.rejections settings).head?.map Failure.rejected) ∧
    (settings.maxDepth < query.depth →
      (parse settings text).failure = some (.nestedTooDeep settings.maxDepth)) := by
  obtain ⟨leading, listed, isListed, rfl⟩ := written
  constructor
  · intro allowed
    have ends : (Reader.ofText (Text.spaces leading ++ listed)).Ends (settings.scope 0 0)
        (query.clauses settings) (query.failure? settings) :=
      Reader.ends_of_listed isListed (by omega) (Reader.ready_ofText _)
    exact Reader.parseAt_of_ends ends
  · intro tooDeep
    obtain ⟨clauses, ends⟩ : (Reader.ofText (Text.spaces leading ++ listed)).Fails
        (settings.scope 0 0) (.nestedTooDeep settings.maxDepth) :=
      Reader.fails_listed isListed (Nat.zero_le _) (by omega) (Reader.ready_ofText _)
    exact (Reader.parseAt_of_ends ends).2

/-- A query with each kind of item, in text: ` +a  -"\"(" n:>v ( m:((b )) )`. -/
theorem parse_written_sample :
    let settings : Settings := { defaultFields := [['f']] }
    let query : Query :=
      .item .must (.word ⟨['a'], by simp, by simp, by simp⟩) <|
      .item .mustNot (.literal ⟨'"', rfl, ['"', '(']⟩) <|
      .item .should (.field ⟨⟨['n'], by simp, by simp, by simp⟩, by decide⟩
        ⟨some .above, .plain ⟨['v'], by simp⟩, nofun⟩) <|
      .item .should (.group <|
        .item .should (.freeText ⟨⟨['m'], by simp, by simp, by simp⟩, by decide⟩
          ⟨['(', 'b', ' ', ')'], .parens (.char (by decide) (.char (by decide) .empty)) .empty⟩)
        .empty) .empty
    let text : Text := [' ', '+', 'a', ' ', ' ', '-', '"', '\\', '"', '(', '"', ' ', 'n', ':', '>', 'v',
      ' ', '(', ' ', 'm', ':', '(', '(', 'b', ' ', ')', ')', ' ', ')']
    query.Written text ∧ (parse settings text).failure = none ∧
      (parse settings text).clauses =
        { must := [.bool [] [] [.text ['f'] ['a'] false]]
          mustNot := [.bool [] [] [.text ['f'] ['"', '('] true]]
          should := [.range ['n'] ['v'] .above,
            .bool [] [] [.freeText ['(', 'b', ' ', ')'] [['m']]]] } := by
  intro settings query text
  have written : query.Written text :=
    ⟨1, _, .item 2 (.word _) (.item 1 (.literal _) (.item 1 (.field _ _) (.item 0 (.group 1
      (.item 1 (.freeText _ _) .empty (.inr rfl))) .empty (.inr rfl)) (.inl Nat.one_pos))
      (.inl Nat.one_pos)) (.inl Nat.two_pos), rfl⟩
  obtain ⟨clauses, failure⟩ := (parse_written settings query text written).1 (by decide)
  exact ⟨written, failure, clauses⟩

end SearchQuery
