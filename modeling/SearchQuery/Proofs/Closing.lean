import Mathlib.Data.List.Chain
import SearchQuery.Proofs.GroupEvents
import SearchQuery.Proofs.Reading

/-! # Texts in which every group is closed

A group is closed by the parenthesis that `GroupText.close?` finds, and a reader in the group comes to
it. That there is one can be told from the text around. In a text without backslashes whose quote
characters are all apostrophes, parentheses are balanced for the scan of a group if they are balanced at
all; then every group is closed, and so is the text itself if it is put in parentheses.
-/

namespace SearchQuery

/-- A text without backslashes, with balanced parentheses, in which all quote characters stand right
behind a letter or number. -/
structure Text.SelfContained (text : Text) : Prop where
  unescaped : '\\' ∉ text
  unquoted : ∀ mark ∈ text.head?, Text.isQuote mark = false
  apostrophes : text.IsChain fun previous mark => Text.isQuote mark → Text.isAlphanumeric previous
  nested : ∀ front, front <+: text → front.count ')' ≤ front.count '('
  balanced : text.count ')' = text.count '('

namespace GroupText

variable {previous c : Char} {depth : Nat} {text rest : Text}

theorem cut?_of_apostrophe (notEscape : c ≠ '\\')
    (isApostrophe : Text.isQuote c → Text.isAlphanumeric previous) :
    cut? previous none depth (c :: rest) =
      if c = ')' ∧ depth = 1 then some ([], rest)
      else (cut? c none (if c = '(' then depth + 1 else if c = ')' then depth - 1 else depth)
        rest).map (behind [c]) := by
  rw [cut?]
  · by_cases isQuote : Text.isQuote c
    · have notOpening : c ≠ '(' := by
        rintro rfl
        cases isQuote
      have notClosing : c ≠ ')' := by
        rintro rfl
        cases isQuote
      simp [isQuote, isApostrophe, notOpening, notClosing]
    · by_cases isOpening : c = '('
      · simp [isOpening, Text.isQuote]
      · by_cases isClosing : c = ')'
        · simp [isClosing, Text.isQuote]
        · simp [isQuote, isOpening, isClosing]
  · simp [notEscape]
  · simp [notEscape]

/-- The scan for the end of a group finds the first parenthesis that closes more than are open. -/
theorem exists_cut? (positive : 0 < depth) (unescaped : '\\' ∉ text)
    (apostrophes : (previous :: text).IsChain fun previous mark =>
      Text.isQuote mark → Text.isAlphanumeric previous)
    (enough : text.count '(' + depth ≤ text.count ')') :
    ∃ body rest, cut? previous none depth text = some (body, rest) ∧
      (∀ front, front <+: body → front.count ')' < front.count '(' + depth) ∧
      body.count ')' + 1 = body.count '(' + depth := by
  induction text generalizing previous depth with
  | nil =>
      simp only [List.count_nil] at enough
      omega
  | cons c text ih =>
      obtain ⟨isApostrophe, apostrophes⟩ := List.isChain_cons_cons.1 apostrophes
      simp only [List.mem_cons, not_or] at unescaped
      obtain ⟨notEscape, unescaped⟩ := unescaped
      rw [cut?_of_apostrophe (Ne.symm notEscape) isApostrophe]
      by_cases closes : c = ')' ∧ depth = 1
      · obtain ⟨rfl, rfl⟩ := closes
        refine ⟨[], text, rfl, ?_, rfl⟩
        intro front isFront
        rw [List.prefix_nil.1 isFront]
        exact Nat.one_pos
      · rw [if_neg closes]
        generalize isNow : (if c = '(' then depth + 1 else if c = ')' then depth - 1 else depth) = now
        -- What is open behind the character is what was open before, but for the character.
        have counted : ∀ front : Text, (c :: front).count '(' + depth + front.count ')' =
            front.count '(' + now + (c :: front).count ')' := by
          intro front
          subst isNow
          by_cases isOpening : c = '('
          · simp [isOpening]
            omega
          · by_cases isClosing : c = ')'
            · simp [isClosing]
              omega
            · simp [isOpening, isClosing]
        have stillPositive : 0 < now := by
          have more : c = ')' → depth ≠ 1 := fun isClosing last => closes ⟨isClosing, last⟩
          grind
        have all := counted text
        obtain ⟨body, rest, cut, inside, closed⟩ := ih stillPositive unescaped apostrophes (by omega)
        refine ⟨c :: body, rest, by rw [cut]; rfl, ?_, ?_⟩
        · intro front isFront
          rcases List.prefix_cons_iff.1 isFront with rfl | ⟨front, rfl, isTail⟩
          · simpa using positive
          · have := inside front isTail
            have := counted front
            omega
        · have := counted body
          omega

end GroupText

namespace Text.SelfContained

variable {text before after : Text} (contained : text.SelfContained)

include contained

theorem isChain_cons : ('(' :: text).IsChain fun previous mark =>
    Text.isQuote mark → Text.isAlphanumeric previous := by
  refine List.isChain_cons.2 ⟨?_, contained.apostrophes⟩
  intro mark isHead isQuote
  rw [contained.unquoted mark isHead] at isQuote
  cases isQuote

/-- Every parenthesis of the text opens a group that is closed, and of the same kind. -/
theorem exists_close (isText : text = before ++ '(' :: after) :
    ∃ body rest, GroupText.close? after = some (body, rest) ∧ body.SelfContained := by
  have suffix : '(' :: after <:+ text := ⟨before, isText.symm⟩
  have apostrophes := contained.apostrophes.suffix suffix
  have unescaped : '\\' ∉ after := by
    intro member
    exact contained.unescaped (suffix.subset (List.mem_cons_of_mem _ member))
  have enough : after.count '(' + 1 ≤ after.count ')' := by
    have balanced := contained.balanced
    have nested := contained.nested before ⟨_, isText.symm⟩
    simp only [isText, List.count_append, List.count_cons_self, List.count_cons] at balanced
    simp at balanced
    omega
  obtain ⟨body, rest, closed, inside, isClosed⟩ :=
    GroupText.exists_cut? Nat.one_pos unescaped apostrophes enough
  have isAfter := GroupText.eq_append_of_cut? closed
  have isPrefix : '(' :: body <+: '(' :: after := by
    rw [isAfter]
    exact List.prefix_append ('(' :: body) _
  have ofBody := apostrophes.prefix isPrefix
  refine ⟨body, rest, closed, ?_⟩
  exact
    { unescaped := fun member => unescaped (isAfter ▸ List.mem_append_left _ member)
      unquoted := by
        intro mark isHead
        have isApostrophe := (List.isChain_cons.1 ofBody).1 mark isHead
        rw [Reader.isAlphanumeric_eq_false (by decide)] at isApostrophe
        exact Bool.eq_false_iff.2 fun isQuote => nomatch isApostrophe isQuote
      apostrophes := (List.isChain_cons.1 ofBody).2
      nested := fun front isFront => Nat.le_of_lt_succ (inside front isFront)
      balanced := Nat.succ.inj isClosed }

theorem close_self : GroupText.close? (text ++ [')']) = some (text, []) := by
  have unescaped : '\\' ∉ text ++ [')'] := by simpa using contained.unescaped
  have apostrophes : ('(' :: (text ++ [')'])).IsChain fun previous mark =>
      Text.isQuote mark → Text.isAlphanumeric previous := by
    rw [← List.cons_append]
    refine List.isChain_append.2 ⟨contained.isChain_cons, .singleton _, ?_⟩
    intro _ _ mark isMark isQuote
    cases isMark
    cases isQuote
  have enough : (text ++ [')']).count '(' + 1 ≤ (text ++ [')']).count ')' := by
    simp [contained.balanced]
  obtain ⟨body, rest, closed, inside, isClosed⟩ :=
    GroupText.exists_cut? Nat.one_pos unescaped apostrophes enough
  have isText := GroupText.eq_append_of_cut? closed
  rcases List.eq_nil_or_concat rest with rfl | ⟨others, last, rfl⟩
  · cases List.append_cancel_right isText
    exact closed
  · -- The text would close more than it has opened by then.
    have isFront : body ++ [')'] <+: text := by
      refine ⟨others, ?_⟩
      have split : text ++ [')'] = (body ++ [')'] ++ others) ++ [last] := by simp [isText]
      exact (List.append_inj_left' split rfl).symm
    have nested := contained.nested _ isFront
    simp at nested
    omega

end Text.SelfContained

theorem History.ne_unclosedGroup {settings : Settings} {depth base : Nat} {text : Text}
    {events : List Event} {fatal : Option Failure}
    (history : History settings depth base text events fatal) (contained : text.SelfContained)
    (offset : Nat) : fatal ≠ some (.unclosedGroup offset) := by
  -- In a text of this kind no group is left open.
  induction history with
  | begun | plain | group | tooDeep => nofun
  | unclosed _ opensAt notClosed =>
      obtain ⟨before, isText, -⟩ := opensAt
      obtain ⟨body, rest, closed, -⟩ := contained.exists_close isText
      cases notClosed.symm.trans closed
  | inside _ opensAt closed _ _ _ ih =>
      obtain ⟨before, isText, -⟩ := opensAt
      obtain ⟨body, rest, sameClosed, inner⟩ := contained.exists_close isText
      cases closed.symm.trans sameClosed
      exact ih inner

namespace Reader

variable {scope : Scope} {reader : Reader} {group : OpenGroup} {body following : Text}

/-- A reader in a group that is closed behind the body. -/
structure ClosesBehind (group : OpenGroup) (body following : Text) (reader : Reader) : Prop where
  mode : reader.mode = .group group
  positive : 0 < group.unclosed
  quoted : ∀ mark, group.quote = some mark → Text.isQuote mark
  cut : ∃ previous, reader.cursor.previous? = some previous ∧
    GroupText.cut? previous group.quote group.unclosed reader.cursor.rest = some (body, following)

/-- The reader moves on over a first part of the body, and the group closes behind the rest of it. -/
def Advances (scope : Scope) (group : OpenGroup) (body following : Text) (reader : Reader) : Prop :=
  ∃ front shorter after, body = front ++ shorter ∧ front ≠ [] ∧ after.occur = group.occur ∧
    Move scope reader { reader.past front with mode := .group after } ∧
    { reader.past front with mode := .group after }.ClosesBehind after shorter following

theorem ClosesBehind.escape {c : Char} {rest : Text}
    (inGroup : reader.ClosesBehind group body following) (scope : Scope)
    (atCursor : reader.cursor.rest = '\\' :: c :: rest) :
    reader.Advances scope group body following := by
  obtain ⟨mode, positive, quoted, previous, -, cut⟩ := inGroup
  rw [atCursor, GroupText.cut?_escape, Option.map_eq_some_iff] at cut
  obtain ⟨⟨shorter, left⟩, cut, same⟩ := cut
  cases same
  have atEscape : reader.cursor.rest.head? = some '\\' := by rw [atCursor, List.head?_cons]
  have isAhead : reader.ahead.cursor.rest = c :: rest := Cursor.rest_next_of_cons atCursor
  have atNext : reader.ahead.cursor.rest.head? = some c := by rw [isAhead, List.head?_cons]
  have isBehind : reader.ahead.ahead.cursor.rest = rest := Cursor.rest_next_of_cons isAhead
  have escapes : Move scope reader reader.ahead.ahead := .escape (by simp [mode]) atEscape
  have stillMode : ({ reader.past ['\\', c] with mode := .group group } : Reader) =
      reader.ahead.ahead := by
    rw [← mode]
    rfl
  refine ⟨['\\', c], shorter, group, rfl, List.cons_ne_nil _ _, rfl, ?_⟩
  rw [stillMode]
  exact ⟨escapes, mode, positive, quoted, c, Cursor.previous?_next atNext, isBehind ▸ cut⟩

theorem ClosesBehind.inside {c : Char} {rest : Text}
    (inGroup : reader.ClosesBehind group body following) (scope : Scope)
    (atCursor : reader.cursor.rest = c :: rest) (notEscape : c ≠ '\\')
    (notClosing : ¬ group.Closes c) : reader.Advances scope group body following := by
  obtain ⟨mode, positive, quoted, previous, isPrevious, cut⟩ := inGroup
  rw [atCursor, GroupText.cut?_after notEscape notClosing quoted, Option.map_eq_some_iff] at cut
  obtain ⟨⟨shorter, left⟩, cut, same⟩ := cut
  cases same
  have atCharacter : reader.cursor.rest.head? = some c := by rw [atCursor, List.head?_cons]
  have isAhead : reader.ahead.cursor.rest = rest := Cursor.rest_next_of_cons atCursor
  have inside : Move scope reader _ := .inside mode atCharacter notEscape positive notClosing
  rw [isPrevious] at inside
  exact ⟨[c], shorter, group.after (some previous) c, rfl, List.cons_ne_nil _ _,
    OpenGroup.occur_after _ _ _, inside, rfl, OpenGroup.unclosed_after_pos positive notClosing,
    fun _ => OpenGroup.isQuote_of_quote_after quoted, c, Cursor.previous?_next atCharacter,
    isAhead ▸ cut⟩

theorem ClosesBehind.step (inGroup : reader.ClosesBehind group body following) (scope : Scope) :
    body = [] ∧ group.Closes ')' ∨ reader.Advances scope group body following := by
  obtain ⟨previous, -, cut⟩ := inGroup.cut
  cases atCursor : reader.cursor.rest with
  | nil =>
      rw [atCursor, GroupText.cut?_nil] at cut
      cases cut
  | cons c rest =>
      by_cases closes : group.Closes c
      · rw [atCursor, GroupText.cut?_of_closes closes] at cut
        cases cut
        obtain ⟨rfl, unquoted, last⟩ := closes
        exact .inl ⟨rfl, rfl, unquoted, last⟩
      · by_cases isEscape : c = '\\'
        · subst isEscape
          cases rest with
          | nil =>
              rw [atCursor, GroupText.cut?_lone_backslash] at cut
              cases cut
          | cons c rest => exact .inr (inGroup.escape scope atCursor)
        · exact .inr (inGroup.inside scope atCursor isEscape closes)

/-- A reader in a group comes to the parenthesis that closes the group in its text. -/
theorem ClosesBehind.reaches_closing (inGroup : reader.ClosesBehind group body following)
    (scope : Scope) :
    ∃ last : OpenGroup, Reaches scope reader { reader.past body with mode := .group last } ∧
      last.Closes ')' ∧ last.occur = group.occur := by
  induction size : body.length using Nat.strongRecOn generalizing reader group body with
  | ind _ ih =>
    rcases inGroup.step scope with ⟨rfl, closes⟩ |
      ⟨front, shorter, after, rfl, nonempty, isOccur, move, further⟩
    · refine ⟨group, ?_, closes, rfl⟩
      rw [← inGroup.mode]
      exact .refl
    · have less : shorter.length < (front ++ shorter).length := by
        rw [List.length_append]
        exact Nat.lt_add_of_pos_left (List.length_pos_of_ne_nil nonempty)
      obtain ⟨last, reached, closes, sameOccur⟩ := ih shorter.length (size ▸ less) further rfl
      refine ⟨last, ?_, closes, sameOccur.trans isOccur⟩
      rw [past_append]
      exact (Reaches.move move).trans reached

theorem Ready.reaches_end {clauses : Clauses} {failure : Option Failure} {occur : Occur}
    {text : Text} (scope : Scope) (ready : reader.Ready clauses failure occur ('(' :: text))
    (closed : GroupText.close? text = some (body, following)) :
    ∃ group closing, Reaches scope reader closing ∧ closing.mode = .group group ∧
      group.Closes ')' ∧ group.occur = occur ∧ closing.cursor.rest = ')' :: following ∧
      closing.cursor.spanText? = some body ∧
      closing.clauses = clauses ∧ closing.failure = failure := by
  obtain ⟨offset, opened, opens, mode, previous, nothing, atBody, rfl, rfl⟩ :=
    ready.opensGroup scope
  have inGroup : opened.ClosesBehind { occur, offset } body following :=
    ⟨mode, Nat.one_pos, nofun, '(', previous, atBody ▸ closed⟩
  obtain ⟨group, reached, closes, sameOccur⟩ := inGroup.reaches_closing scope
  have inBody := atBody.trans (GroupText.eq_append_of_cut? closed)
  exact ⟨group, _, (Reaches.move opens).trans reached, rfl, closes, sameOccur,
    Cursor.rest_past inBody, Cursor.spanText?_past nothing inBody, rfl, rfl⟩

end Reader

end SearchQuery
