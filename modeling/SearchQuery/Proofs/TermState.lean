import SearchQuery.Proofs.Joining

/-! # What is known of a term

While a term is read the reader takes note of its field, of how its value is to be matched and of
what has to be closed before the value can end. These go together: only the value of a field is
matched in a way of its own, and only a literal in parentheses has parentheses to be closed, as
many as its text leaves open. With the clause of the term all of it is forgotten, so no term and no
group begins with anything that was known before.
-/

namespace SearchQuery

namespace FreeText

/-- What has to be closed behind the first parenthesis of a literal and the text that follows it:
every parenthesis that is open, the first one included, and nothing once that one is closed. -/
def leftOpen (text : Text) : Option Enclosure :=
  if Text.Nested 0 text then
    some (.parens (text.outsideEscapes.count '(' + 1 - text.outsideEscapes.count ')'))
  else none

variable {level : Nat} {text other : Text} {c : Char}

theorem leftOpen_eq (nested : Text.Nested 0 text)
    (counted : level + text.outsideEscapes.count ')' = text.outsideEscapes.count '(' + 0) :
    leftOpen text = some (.parens (level + 1)) := by
  rw [leftOpen, if_pos nested]
  congr 2
  omega

theorem leftOpen_eq_none (closed : ¬ Text.Nested 0 text) : leftOpen text = none :=
  if_neg closed

theorem leftOpen_congr (same : text.outsideEscapes = other.outsideEscapes) :
    leftOpen text = leftOpen other := by
  have nested : Text.Nested 0 text ↔ Text.Nested 0 other := by simp only [Text.Nested, same]
  simp only [leftOpen, nested, same]

theorem pos_of_leftOpen (isOpen : leftOpen text = some (.parens level)) : 0 < level := by
  rw [leftOpen, Option.ite_none_right_eq_some, Option.some.injEq, Enclosure.parens.injEq] at isOpen
  obtain ⟨nested, rfl⟩ := isOpen
  have bound := nested _ List.prefix_rfl
  omega

end FreeText

namespace Enclosure

variable {atStart : Bool} {c : Char} {enclosure : Option Enclosure} {level : Nat}

theorem after_none (c : Char) : after false c none = none := by
  simp [after, Reader.quoteInTerm]

theorem exists_parens_of_after (isAfter : after atStart c enclosure = some (.parens level)) :
    ∃ before, enclosure = some (.parens before) := by
  cases enclosure with
  | none => simp [after, Reader.quoteInTerm] at isAfter
  | some enclosure =>
      cases enclosure with
      | parens before => exact ⟨before, rfl⟩
      | quote mark =>
          simp only [after, Option.map_some, Option.bind_some, opened, closed?,
            Reader.quoteInTerm] at isAfter
          repeat' split at isAfter
          all_goals cases isAfter

theorem exists_level (remains : c = ')' → 0 < level) :
    ∃ next, next + [c].count ')' = [c].count '(' + level := by
  refine ⟨[c].count '(' + level - [c].count ')', Nat.sub_add_cancel ?_⟩
  by_cases isClosing : c = ')'
  · have more : 1 ≤ level := remains isClosing
    subst isClosing
    simpa using more
  · simp [isClosing]

theorem closing_of_after_parens (isAfter : after atStart c (some (.parens level)) = none) :
    c = ')' ∧ level ≤ 1 := by
  have isClosing : c = ')' := by
    by_contra other
    simp only [after, other, ↓reduceIte, Option.map_some, Reader.quoteInTerm, ite_self] at isAfter
    split at isAfter <;> cases isAfter
  subst isClosing
  refine ⟨rfl, Nat.le_of_not_lt fun more => ?_⟩
  obtain ⟨left, rfl⟩ := Nat.exists_eq_add_of_le' more
  cases isAfter

end Enclosure

/-- A character of a literal changes what its text leaves open as it changes what the reader has to
close. -/
theorem FreeText.leftOpen_concat {text : Text} {c : Char} (complete : text.endsInEscape = false)
    (notEscape : c ≠ '\\') :
    leftOpen (text ++ [c]) = Enclosure.after false c (leftOpen text) := by
  have behind : (text ++ [c]).outsideEscapes = text.outsideEscapes ++ [c] := by
    rw [Text.outsideEscapes_append complete, Text.outsideEscapes_cons notEscape]
    rfl
  by_cases nested : Text.Nested 0 text
  · obtain ⟨level, counted⟩ := Nat.exists_eq_add_of_le' (nested _ List.prefix_rfl)
    rw [leftOpen_eq nested counted.symm]
    by_cases closes : c = ')' ∧ level = 0
    · obtain ⟨rfl, rfl⟩ := closes
      apply leftOpen_eq_none
      intro stillNested
      have bound := stillNested _ List.prefix_rfl
      have counts : [')'].count ')' = 1 ∧ [')'].count '(' = 0 := by decide
      rw [behind, List.count_append, List.count_append] at bound
      omega
    · obtain ⟨next, step⟩ := Enclosure.exists_level fun isClosing =>
        Nat.pos_of_ne_zero fun last => closes ⟨isClosing, last⟩
      have nothing : Text.Nested next [] := by simp [Text.Nested, Text.outsideEscapes]
      rw [Enclosure.after_parens step]
      refine leftOpen_eq (nested.append complete counted.symm (.cons notEscape step nothing)) ?_
      rw [behind, List.count_append, List.count_append]
      omega
  · have closed : ¬ Text.Nested 0 (text ++ [c]) := fun stillNested =>
      nested (stillNested.of_prefix (List.prefix_append _ _))
    rw [leftOpen_eq_none nested, leftOpen_eq_none closed, Enclosure.after_none]

theorem Cursor.atSpanStart_eq_false {cursor : Cursor} {c : Char} {span : Text}
    (known : cursor.spanText? = some (c :: span)) : cursor.atSpanStart = false := by
  have nonempty : cursor.span? ≠ some [] := by
    intro nothing
    rw [spanText?, nothing] at known
    cases known
  simpa [atSpanStart] using nonempty

namespace Reader

variable {scope : Scope} {settings : Settings} {depth base level : Nat} {text : Text}
  {before after reader : Reader} {c : Char}

/-- A reader in a literal in parentheses, either at the first one or behind it. There the text that
it has read behind that parenthesis tells what has to be closed. -/
inductive InLiteral (reader : Reader) : Prop where
  | atOpening : reader.cursor.spanText? = some [] → reader.cursor.rest.head? = some '(' →
      reader.enclosure = some (.parens 0) → InLiteral reader
  | behind {inner : Text} : reader.cursor.spanText? = some ('(' :: inner) →
      reader.enclosure = FreeText.leftOpen inner →
      inner.endsInEscape = false ∨ reader.cursor.rest = [] → InLiteral reader

/-- Whether what the reader knows of a term goes together: only a field comes with a way to match
its value, and only a literal in parentheses with parentheses to be closed. -/
structure Coherent (reader : Reader) : Prop where
  field : reader.kind ≠ .auto → reader.field.isSome
  parens : ∀ level, reader.enclosure = some (.parens level) → reader.kind = .sigil .freeText
  literal : reader.kind = .sigil .freeText → reader.InLiteral

theorem Clean.coherent (clean : reader.Clean) : reader.Coherent where
  field valued := absurd clean.kind valued
  parens _ inside := by cases clean.enclosure.symm.trans inside
  literal isLiteral := by cases clean.kind.symm.trans isLiteral

theorem InLiteral.escape (inLiteral : reader.InLiteral)
    (atCursor : reader.cursor.rest.head? = some '\\') : reader.ahead.ahead.InLiteral := by
  -- A backslash and the character behind it leave open what was open before.
  cases inLiteral with
  | atOpening _ atOpening _ => cases atOpening.symm.trans atCursor
  | @behind inner known isOpen complete =>
      have complete := complete.resolve_right
        (List.isSome_head?.1 (Option.isSome_of_eq_some atCursor))
      have same : ∀ pair : Text, pair.outsideEscapes = [] →
          reader.enclosure = FreeText.leftOpen (inner ++ pair) := by
        intro pair nothing
        rw [isOpen]
        apply FreeText.leftOpen_congr
        rw [Text.outsideEscapes_append complete, nothing, List.append_nil]
      rcases Cursor.spanText?_escape atCursor known with ⟨atEnd, read⟩ | ⟨c, read⟩
      · exact .behind read (same ['\\'] rfl) (.inr atEnd)
      · refine .behind read (same ['\\', c] rfl) (.inl ?_)
        exact Text.endsInEscape_append complete ['\\', c]

theorem InLiteral.content (inLiteral : reader.InLiteral)
    (atCursor : reader.cursor.rest.head? = some c) (notEscape : c ≠ '\\') :
    ({ reader.ahead with
      enclosure := Enclosure.after reader.cursor.atSpanStart c reader.enclosure } :
        Reader).InLiteral := by
  cases inLiteral with
  | atOpening known atOpening isOpen =>
      obtain rfl : '(' = c := Option.some.inj (atOpening.symm.trans atCursor)
      refine @behind _ [] (Cursor.spanText?_next atCursor known) ?_ (.inl rfl)
      rw [isOpen]
      rfl
  | @behind inner known isOpen complete =>
      have complete := complete.resolve_right
        (List.isSome_head?.1 (Option.isSome_of_eq_some atCursor))
      have pastStart := Cursor.atSpanStart_eq_false known
      refine @behind _ (inner ++ [c]) (Cursor.spanText?_next atCursor known) ?_ (.inl ?_)
      · rw [pastStart, isOpen, FreeText.leftOpen_concat complete notEscape]
      · rw [Text.endsInEscape_append complete, Text.endsInEscape_cons notEscape]
        rfl

theorem Coherent.escape (coherent : reader.Coherent)
    (atCursor : reader.cursor.rest.head? = some '\\') : reader.ahead.ahead.Coherent where
  field := coherent.field
  parens := coherent.parens
  literal isLiteral := (coherent.literal isLiteral).escape atCursor

theorem Coherent.content (coherent : reader.Coherent)
    (atCursor : reader.cursor.rest.head? = some c) (notEscape : c ≠ '\\') :
    ({ reader.ahead with
      enclosure := Enclosure.after reader.cursor.atSpanStart c reader.enclosure } :
        Reader).Coherent where
  field := coherent.field
  parens _ inside := by
    obtain ⟨_, wasInside⟩ := Enclosure.exists_parens_of_after inside
    exact coherent.parens _ wasInside
  literal isLiteral := (coherent.literal isLiteral).content atCursor notEscape

theorem coherent_sigilled (scope : Scope) (named : reader.field.isSome) (kind : reader.kind = .auto)
    (outside : reader.enclosure = none) : (reader.sigilled scope).Coherent := by
  simp only [sigilled]
  split
  · exact
      { field := fun _ => named
        parens := fun _ inside => by cases outside.symm.trans inside
        literal := fun isLiteral => by cases kind.symm.trans isLiteral }
  · rename_i isSigil
    obtain ⟨c, atCursor, isSigil⟩ := Option.bind_eq_some_iff.1 isSigil
    obtain rfl : c = '(' := by
      unfold Sigil.ofChar? at isSigil
      split at isSigil
      all_goals first | rfl | cases isSigil
    exact
      { field := fun _ => named
        parens := fun _ _ => rfl
        literal := fun _ => .atOpening rfl atCursor rfl }
  · rename_i sigil notLiteral _
    exact
      { field := fun _ => named
        parens := fun _ inside => by cases outside.symm.trans inside
        literal := fun isLiteral => absurd (MatchKind.sigil.inj isLiteral) notLiteral }

theorem Move.coherent (move : Move scope before after)
    (clean : before.mode ≠ .term → before.Clean) (coherent : before.Coherent) :
    after.Coherent := by
  cases move with
  | finish mode | mark mode | openGroup mode | beginTerm mode | unclosed mode | inside mode
  | tooDeep mode | failInside mode =>
      have clean := clean (by simp [mode])
      exact Clean.coherent ⟨clean.field, clean.kind, clean.enclosure⟩
  | escape _ atCursor => exact coherent.escape atCursor
  | content _ atCursor notEscape => exact coherent.content atCursor notEscape
  | name _ _ _ outside noField _ _ spot =>
      have noKind : before.kind = .auto := by
        by_contra valued
        have named := coherent.field valued
        rw [noField] at named
        cases named
      refine coherent_sigilled scope rfl ?_ ?_
      · rw [spot]
        split <;> exact noKind
      · rw [spot]
        split <;> exact outside
  | endTerm | closeGroup => exact Clean.coherent ⟨rfl, rfl, rfl⟩

theorem Reaches.coherent (reached : Reaches (settings.scope depth base) (ofText text) reader) :
    reader.Coherent := by
  induction reached with
  | refl => exact Clean.coherent ⟨rfl, rfl, rfl⟩
  | step reached running ran ih =>
      have move := move_of_step? isSome_enter_scope reached.sound running ran
      exact move.coherent reached.clean ih

theorem Move.clean_of_begins (move : Move scope before after) (clean : before.Clean)
    (outside : before.mode ≠ .term) (begins : after.mode = .term) : after.Clean := by
  cases move with
  | beginTerm => exact ⟨clean.field, clean.kind, clean.enclosure⟩
  | finish | openGroup | endTerm | unclosed | inside | tooDeep | failInside | closeGroup =>
      cases begins
  | mark mode => cases mode.symm.trans begins
  | escape => exact absurd begins outside
  | content mode | name mode => exact absurd mode outside

theorem Move.attaches (move : Move scope before after) :
    after.clauses = before.clauses ∨
      (∃ occur clause, after.clauses = before.clauses.add occur clause) ∧ after.Clean ∧
        after.occur = .should := by
  -- With a clause everything is forgotten that was known of it, also how it was to occur.
  cases move with
  | finish | escape | mark | openGroup | beginTerm | content | unclosed | inside | tooDeep
  | failInside => exact .inl rfl
  | name _ _ _ _ _ _ _ spot =>
      obtain ⟨events, recorded, -⟩ := parsed_sigilled_of_name spot scope _ _
      exact .inl (congrArg Parsed.clauses recorded)
  | endTerm | closeGroup => exact .inr ⟨⟨_, _, rfl⟩, ⟨rfl, rfl, rfl⟩, rfl⟩

theorem Coherent.pos_of_closing (coherent : reader.Coherent)
    (inside : reader.enclosure = some (.parens level))
    (atCursor : reader.cursor.rest.head? = some ')') : 0 < level := by
  cases coherent.literal (coherent.parens level inside) with
  | atOpening _ atOpening _ => cases atOpening.symm.trans atCursor
  | behind _ isOpen _ => exact FreeText.pos_of_leftOpen (isOpen.symm.trans inside)

theorem step?_of_closing (scope : Scope) (mode : reader.mode = .term)
    (atCursor : reader.cursor.rest.head? = some ')') :
    reader.step? scope = some { reader.ahead with
      enclosure := reader.enclosure.bind Enclosure.closed? } := by
  simp only [step?, mode, stepTerm?_eq, atCursor]

/-- The last open parenthesis of a literal is closed only by a closing parenthesis. -/
theorem Move.closing (move : Move scope before after) (coherent : before.Coherent)
    (inTerm : before.mode = .term) (inside : before.enclosure = some (.parens level))
    (stays : after.mode = .term) (closed : after.enclosure = none) :
    before.cursor.rest.head? = some ')' ∧ level = 1 := by
  cases move with
  | finish mode | mark mode | openGroup mode | beginTerm mode | unclosed mode | inside mode
  | tooDeep mode | failInside mode | closeGroup mode => cases mode.symm.trans inTerm
  | endTerm => cases stays
  | escape => cases inside.symm.trans closed
  | name _ _ _ outside => cases inside.symm.trans outside
  | content _ atCursor =>
      simp only [inside] at closed
      obtain ⟨rfl, atMostOne⟩ := Enclosure.closing_of_after_parens closed
      exact ⟨atCursor, Nat.le_antisymm atMostOne (coherent.pos_of_closing inside atCursor)⟩

end Reader

open Reader (Reaches)

/-- What is known of a term is known only while that term is read. A reader that is between clauses
or in a group knows nothing of a term, and no term begins with anything known; in a term, what is
known goes together. Of a literal in parentheses exactly what its text leaves open is to be closed:
a closing parenthesis finds one that is open and closes it, and nothing else closes the last. And
whatever adds a clause forgets all that was known, also how the clause was to occur. -/
theorem terms_begin_afresh {settings : Settings} {depth base : Nat} {text : Text} {reader : Reader}
    (reached : Reaches (settings.scope depth base) (.ofText text) reader) :
    (reader.mode ≠ .term → reader.Clean) ∧ reader.Coherent ∧
    ∀ after, reader.step? (settings.scope depth base) = some after →
      (reader.mode ≠ .term → after.mode = .term → after.Clean) ∧
      (∀ level, reader.enclosure = some (.parens level) →
        (reader.cursor.rest.head? = some ')' → ∃ left, level = left + 1 ∧ after.mode = .term ∧
          after.enclosure = if left = 0 then none else some (.parens left)) ∧
        (after.mode = .term → after.enclosure = none →
          reader.cursor.rest.head? = some ')' ∧ level = 1)) ∧
      (after.clauses = reader.clauses ∨
        (∃ occur clause, after.clauses = reader.clauses.add occur clause) ∧ after.Clean ∧
          after.occur = .should) := by
  have coherent := reached.coherent
  refine ⟨reached.clean, coherent, ?_⟩
  intro after ran
  by_cases done : reader.mode = .done
  · have clean := reached.clean (by simp [done])
    have same : reader = after := by simpa [Reader.step?, done] using ran
    subst same
    refine ⟨fun _ inTerm => ?_, fun level inside => ?_, .inl rfl⟩
    · cases done.symm.trans inTerm
    · cases clean.enclosure.symm.trans inside
  have move := Reader.move_of_step? isSome_enter_scope reached.sound done ran
  refine ⟨fun outside => move.clean_of_begins (reached.clean outside) outside, ?_, move.attaches⟩
  intro level inside
  have inTerm : reader.mode = .term := by
    by_contra outside
    cases (reached.clean outside).enclosure.symm.trans inside
  refine ⟨fun atCursor => ?_, move.closing coherent inTerm inside⟩
  obtain ⟨left, rfl⟩ := Nat.exists_eq_add_of_le' (coherent.pos_of_closing inside atCursor)
  rw [Reader.step?_of_closing _ inTerm atCursor, inside] at ran
  cases ran
  refine ⟨left, rfl, inTerm, ?_⟩
  cases left <;> rfl

/-- In a group of a query, the field of the literal `((\))` and the sign in front of it are forgotten
behind its last parenthesis. -/
theorem terms_begin_afresh_behind_literal :
    let scope := Settings.scope {} 1 1
    let text : Text := ['-', 'n', ':', '(', '(', '\\', ')', ')', ')', ' ', 'c']
    ∃ inside closed ended,
      Reaches scope (.ofText text) inside ∧ inside.step? scope = some closed ∧
      closed.step? scope = some ended ∧
      inside.occur = .mustNot ∧ inside.field = some ['n'] ∧ inside.enclosure = some (.parens 1) ∧
      closed.enclosure = none ∧ ended.clauses ≠ closed.clauses ∧ ended.Clean ∧
      ended.occur = .should := by
  intro scope text
  let readers : Nat → Reader :=
    Nat.rec (.ofText text) fun _ reader => (reader.step? scope).getD reader
  have steps : ∀ count < 10, (readers count).mode ≠ .done ∧
      (readers count).step? scope = some (readers (count + 1)) := by decide +kernel
  have reached : ∀ count ≤ 10, Reaches scope (.ofText text) (readers count) := by
    intro count within
    induction count with
    | zero => exact .refl
    | succ count ih =>
        obtain ⟨running, ran⟩ := steps count within
        exact (ih (Nat.le_of_lt within)).step running ran
  -- In eight steps the reader comes to the last parenthesis of the literal.
  obtain ⟨occur, field, enclosure, isClosing, added⟩ : (readers 8).occur = .mustNot ∧
      (readers 8).field = some ['n'] ∧ (readers 8).enclosure = some (.parens 1) ∧
      (readers 8).cursor.rest.head? = some ')' ∧ (readers 10).clauses ≠ (readers 9).clauses := by
    decide +kernel
  have ran : (readers 8).step? scope = some (readers 9) := (steps 8 (by decide)).2
  have ranOn : (readers 9).step? scope = some (readers 10) := (steps 9 (by decide)).2
  obtain ⟨-, -, closing⟩ := terms_begin_afresh (reached 8 (by decide))
  obtain ⟨-, parens, -⟩ := closing _ ran
  obtain ⟨left, isLevel, -, isLeft⟩ := (parens 1 enclosure).1 isClosing
  obtain rfl : left = 0 := by omega
  obtain ⟨-, -, ending⟩ := terms_begin_afresh (reached 9 (by decide))
  obtain ⟨-, -, attaches⟩ := ending _ ranOn
  obtain ⟨-, clean, isShould⟩ := attaches.resolve_left added
  exact ⟨_, _, _, reached 8 (by decide), ran, ranOn, occur, field, enclosure, isLeft, added, clean,
    isShould⟩

end SearchQuery
