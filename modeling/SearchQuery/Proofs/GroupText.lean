import SearchQuery.Proofs.FailureTrace
import SearchQuery.Proofs.Positions

/-! # Where a group ends

The end of a group is settled by the text behind its opening parenthesis: `GroupText.cut?`
counts parentheses in it until none is left open. A reader in a group does the same one
character at a time, and `Reader.Scanning` says how far it has come with it.
-/

namespace SearchQuery

namespace GroupText

/-- A cut with more text in front of it. -/
def behind (front : Text) (cut : Text × Text) : Text × Text := (front ++ cut.1, cut.2)

theorem map_behind_map_behind (first second : Text) (cut : Option (Text × Text)) :
    (cut.map (behind second)).map (behind first) = cut.map (behind (first ++ second)) := by
  cases cut <;> simp [behind]

/-- Cuts the text of a group at the parenthesis that closes it: the body, and what is behind the
parenthesis. There are `depth` parentheses open, and perhaps a quote, inside which they do not
count. A quote character opens one unless it follows a letter or number, and whatever follows a
backslash is passed over. -/
def cut? : (previous : Char) → (quote : Option Char) → (depth : Nat) → Text → Option (Text × Text)
  | _, _, _, [] => none
  | _, _, _, ['\\'] => none
  | _, quote, depth, '\\' :: c :: rest => (cut? c quote depth rest).map (behind ['\\', c])
  | _, some mark, depth, c :: rest =>
    (cut? c (if c = mark then none else some mark) depth rest).map (behind [c])
  | previous, none, depth, c :: rest =>
    if Text.isQuote c then
      (cut? c (if Text.isAlphanumeric previous then none else some c) depth rest).map (behind [c])
    else if c = '(' then (cut? c none (depth + 1) rest).map (behind [c])
    else if c = ')' then
      if depth = 1 then some ([], rest) else (cut? c none (depth - 1) rest).map (behind [c])
    else (cut? c none depth rest).map (behind [c])

/-- The text behind an opening parenthesis, cut at the parenthesis that closes it. -/
def close? (text : Text) : Option (Text × Text) := cut? '(' none 1 text

variable {previous c : Char} {quote : Option Char} {depth : Nat} {rest : Text}

theorem cut?_escape (previous c : Char) (quote : Option Char) (depth : Nat) (rest : Text) :
    cut? previous quote depth ('\\' :: c :: rest) =
      (cut? c quote depth rest).map (behind ['\\', c]) := by
  rw [cut?]

theorem cut?_nil (previous : Char) (quote : Option Char) (depth : Nat) :
    cut? previous quote depth [] = none := by
  rw [cut?]

theorem cut?_lone_backslash (previous : Char) (quote : Option Char) (depth : Nat) :
    cut? previous quote depth ['\\'] = none := by
  rw [cut?]

theorem cut?_of_closes {group : OpenGroup} (closes : group.Closes c) :
    cut? previous group.quote group.unclosed (c :: rest) = some ([], rest) := by
  obtain ⟨rfl, unquoted, last⟩ := closes
  rw [unquoted, last, cut?]
  · simp [Text.isQuote]
  · simp
  · simp

/-- A character that does not close the group is counted as a reader counts it. -/
theorem cut?_after {group : OpenGroup} (notEscape : c ≠ '\\') (notClosing : ¬ group.Closes c)
    (quoted : ∀ mark, group.quote = some mark → Text.isQuote mark) :
    cut? previous group.quote group.unclosed (c :: rest) =
      (cut? c (group.after (some previous) c).quote (group.after (some previous) c).unclosed
        rest).map (behind [c]) := by
  obtain ⟨occur, offset, unclosed, quote⟩ := group
  cases quote with
  | some mark =>
      have isMark := quoted mark rfl
      rw [cut?]
      · by_cases same : c = mark
        · subst same
          simp [OpenGroup.after, isMark, Reader.quoteInGroup]
        · have other : mark ≠ c := Ne.symm same
          by_cases isQuote : Text.isQuote c
          · simp [OpenGroup.after, isQuote, Reader.quoteInGroup, same, other]
          · simp [OpenGroup.after, isQuote, same]
      · simp [notEscape]
      · simp [notEscape]
  | none =>
      rw [cut?]
      · by_cases isQuote : Text.isQuote c
        · simp [OpenGroup.after, isQuote, Reader.quoteInGroup]
        · by_cases isOpening : c = '('
          · simp [OpenGroup.after, isOpening, Text.isQuote]
          · by_cases isClosing : c = ')'
            · have more : unclosed ≠ 1 := fun last => notClosing ⟨isClosing, rfl, last⟩
              simp [OpenGroup.after, isClosing, Text.isQuote, more]
            · simp [OpenGroup.after, isQuote, isOpening, isClosing]
      · simp [notEscape]
      · simp [notEscape]

theorem eq_append_of_map_behind {front text body after : Text} {cut : Option (Text × Text)}
    (inner : ∀ {body}, cut = some (body, after) → text = body ++ ')' :: after)
    (whole : cut.map (behind front) = some (body, after)) :
    front ++ text = body ++ ')' :: after := by
  obtain ⟨⟨shorter, _⟩, isCut, same⟩ := Option.map_eq_some_iff.1 whole
  cases same
  rw [inner isCut, List.append_assoc]

theorem eq_append_of_cut? {text body after : Text}
    (cut : cut? previous quote depth text = some (body, after)) : text = body ++ ')' :: after := by
  fun_induction cut? previous quote depth text generalizing body with
  | case1 | case2 => cases cut
  | case7 =>
      cases cut
      rfl
  | case3 | case4 | case5 | case6 | case8 | case9 =>
      rename_i ih
      exact eq_append_of_map_behind ih cut

theorem eq_append_of_close? {text body after : Text} (closed : close? text = some (body, after)) :
    text = body ++ ')' :: after := eq_append_of_cut? closed

end GroupText

namespace Cursor

variable {cursor : Cursor} {c : Char}

theorem previous?_next_of_nil (atEnd : cursor.rest = []) :
    cursor.next.2.previous? = cursor.previous? := by
  obtain ⟨committed, span, rest, canBackUp⟩ := cursor
  subst atEnd
  rfl

theorem committed_next (known : cursor.span?.isSome) :
    cursor.next.2.committed = cursor.committed := by
  obtain ⟨committed, span, rest, canBackUp⟩ := cursor
  cases rest <;> cases span <;> simp_all [next]

theorem exists_committed_of_next (known : cursor.span?.isSome)
    (atCursor : cursor.rest.head? = some c) :
    ∃ before, cursor.next.2.commit.committed = c :: before.reverse ∧
      cursor.next.2.pos = Text.byteSize before + c.utf8Size := by
  obtain ⟨committed, span, rest, canBackUp⟩ := cursor
  obtain ⟨span, rfl⟩ := Option.isSome_iff_exists.1 known
  obtain ⟨others, rfl⟩ := List.head?_eq_some_iff.1 atCursor
  refine ⟨(span ++ committed).reverse, by simp [next, commit], ?_⟩
  simp only [next, pos, Option.getD_some, Text.byteSize_cons, Text.byteSize_reverse,
    Text.byteSize_append]
  omega

end Cursor

namespace Reader

open GroupText

/-- A reader in a group that begins behind the text `before`: it has read the span, and what is
left of its text decides where the group ends. -/
structure Scanning (base : Nat) (before span : Text) (group : OpenGroup) (reader : Reader) :
    Prop where
  committed : reader.cursor.committed = '(' :: before.reverse
  known : reader.cursor.spanText? = some span
  offset : group.offset = base + Text.byteSize before
  quoted : ∀ mark, group.quote = some mark → Text.isQuote mark
  close : ∃ previous, reader.cursor.previous? = some previous ∧
    close? (span ++ reader.cursor.rest) =
      (cut? previous group.quote group.unclosed reader.cursor.rest).map (behind span)

variable {base : Nat} {before span : Text} {group : OpenGroup} {reader : Reader}

theorem Scanning.text_eq (scanning : reader.Scanning base before span group) :
    reader.cursor.text = before ++ '(' :: (span ++ reader.cursor.rest) := by
  obtain ⟨old, isOld, rfl⟩ := Option.map_eq_some_iff.1 scanning.known
  simp [Cursor.text, scanning.committed, isOld]

theorem Scanning.start_eq (scanning : reader.Scanning base before span group) :
    reader.cursor.start = Text.byteSize before + 1 := by
  obtain ⟨old, isOld, -⟩ := Option.map_eq_some_iff.1 scanning.known
  have parenthesis : Char.utf8Size '(' = 1 := rfl
  simp only [Cursor.start, isOld, scanning.committed, Text.byteSize_cons, Text.byteSize_reverse]
  omega

theorem exists_scanning {occur : Occur} {offset : Nat} (known : reader.cursor.span?.isSome)
    (atCursor : reader.cursor.rest.head? = some '(')
    (isOffset : base + reader.ahead.cursor.pos = offset + 1) :
    ∃ before, ∀ opened : Reader, opened.cursor = reader.ahead.cursor.commit →
      opened.Scanning base before [] { occur, offset } := by
  obtain ⟨before, committed, pos⟩ := Cursor.exists_committed_of_next known atCursor
  have parenthesis : Char.utf8Size '(' = 1 := rfl
  have isPos : reader.ahead.cursor.pos = Text.byteSize before + 1 := by
    rw [← parenthesis, ← pos]
    rfl
  refine ⟨before, fun opened isOpened => ?_⟩
  have isCommitted : opened.cursor.committed = '(' :: before.reverse := by
    rw [isOpened, ← committed]
    rfl
  have nothing : opened.cursor.span? = some [] := by
    rw [isOpened]
    rfl
  refine ⟨isCommitted, ?_, ?_, nofun, '(', ?_, ?_⟩
  · rw [Cursor.spanText?, nothing, Option.map_some, List.reverse_nil]
  · simp only
    omega
  · simp only [Cursor.previous?, nothing, isCommitted, List.head?_cons]
  · have same : behind [] = id := rfl
    rw [same, Option.map_id_apply]
    rfl

theorem Scanning.inside {c : Char} {mode : Mode} (scanning : reader.Scanning base before span group)
    (atCursor : reader.cursor.rest.head? = some c) (notEscape : c ≠ '\\')
    (notClosing : ¬ group.Closes c) :
    ({ reader.ahead with mode } : Reader).Scanning base before (span ++ [c])
      (group.after reader.cursor.previous? c) := by
  obtain ⟨committed, known, offset, quoted, previous, isPrevious, close⟩ := scanning
  obtain ⟨rest, isRest⟩ := List.head?_eq_some_iff.1 atCursor
  have isAhead : reader.ahead.cursor.rest = rest := Cursor.rest_next_of_cons isRest
  have present : reader.cursor.span?.isSome := Cursor.isSome_span?_of_spanText? known
  refine ⟨(Cursor.committed_next present).trans committed, Cursor.spanText?_next atCursor known,
    (OpenGroup.offset_after _ _ _).trans offset, fun _ => OpenGroup.isQuote_of_quote_after quoted,
    c, Cursor.previous?_next atCursor, ?_⟩
  simp only [isAhead, isPrevious]
  rw [isRest, cut?_after notEscape notClosing quoted, map_behind_map_behind] at close
  rw [List.append_assoc, List.singleton_append, close]

theorem Scanning.escape (scanning : reader.Scanning base before span group)
    (atCursor : reader.cursor.rest.head? = some '\\') :
    ∃ span, reader.ahead.ahead.Scanning base before span group := by
  obtain ⟨committed, known, offset, quoted, previous, isPrevious, close⟩ := scanning
  obtain ⟨rest, isRest⟩ := List.head?_eq_some_iff.1 atCursor
  have isAhead : reader.ahead.cursor.rest = rest := Cursor.rest_next_of_cons isRest
  have present : reader.cursor.span?.isSome := Cursor.isSome_span?_of_spanText? known
  have stillThere := Cursor.isSome_span?_next present
  have isCommitted : reader.ahead.ahead.cursor.committed = '(' :: before.reverse :=
    ((Cursor.committed_next stillThere).trans (Cursor.committed_next present)).trans committed
  have read := Cursor.spanText?_next atCursor known
  cases rest with
  | nil =>
      -- Nothing is behind the backslash, so the group is not closed in its text.
      have atEnd : reader.ahead.ahead.cursor.rest = [] := by
        rw [ahead, Cursor.rest_next, isAhead, List.tail_nil]
      refine ⟨span ++ ['\\'], isCommitted, (Cursor.spanText?_next_of_nil isAhead).trans read,
        offset, quoted, '\\', ?_, ?_⟩
      · have same : reader.ahead.ahead.cursor.previous? = reader.ahead.cursor.previous? := by
          rw [ahead, Cursor.previous?_next_of_nil isAhead]
        exact same.trans (Cursor.previous?_next atCursor)
      · rw [isRest, cut?_lone_backslash] at close
        rw [atEnd, List.append_nil, close, cut?_nil]
        rfl
  | cons c rest =>
      have atNext : reader.ahead.cursor.rest.head? = some c := by rw [isAhead, List.head?_cons]
      have isBehind : reader.ahead.ahead.cursor.rest = rest := Cursor.rest_next_of_cons isAhead
      refine ⟨span ++ ['\\'] ++ [c], isCommitted, Cursor.spanText?_next atNext read, offset,
        quoted, c, Cursor.previous?_next atNext, ?_⟩
      rw [isRest, cut?_escape, map_behind_map_behind] at close
      simpa [isBehind] using close

theorem Scanning.close_of_closes {following : Text}
    (scanning : reader.Scanning base before span group)
    (atCursor : reader.cursor.rest = ')' :: following) (closes : group.Closes ')') :
    close? (span ++ ')' :: following) = some (span, following) := by
  obtain ⟨previous, -, close⟩ := scanning.close
  rw [atCursor, cut?_of_closes closes] at close
  simpa [behind] using close

theorem Scanning.close_of_nil (scanning : reader.Scanning base before span group)
    (atEnd : reader.cursor.rest = []) : close? span = none := by
  obtain ⟨previous, -, close⟩ := scanning.close
  rw [atEnd, cut?_nil, List.append_nil] at close
  exact close

end Reader

end SearchQuery
