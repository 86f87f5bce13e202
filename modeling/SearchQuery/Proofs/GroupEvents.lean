import SearchQuery.Proofs.History

/-! # What a log says of groups

Places are reported in bytes of the whole query, however deep the text lies in which they were
found. A group is entered right after it was opened, and if the reading was ended, the group that
was opened last is the one with the fault.
-/

namespace SearchQuery

namespace Text

/-- Whether the text is the part of the query that begins at byte `base`. -/
def PartOf (query : Text) (base : Nat) (text : Text) : Prop :=
  ∃ before after, query = before ++ text ++ after ∧ byteSize before = base

variable {query text after inner rest : Text} {base offset : Nat}

theorem partOf_self (query : Text) : query.PartOf 0 query := ⟨[], [], by simp, rfl⟩

theorem PartOf.of_opensAt (isPart : query.PartOf base text) {front back : Text}
    (opensAt : text.OpensAt base offset (front ++ back)) : query.PartOf offset ('(' :: front) := by
  obtain ⟨before, behind, rfl, rfl⟩ := isPart
  obtain ⟨within, rfl, rfl⟩ := opensAt
  exact ⟨before ++ within, back ++ behind, by simp, by simp⟩

theorem PartOf.parenthesis (isPart : query.PartOf base text)
    (opensAt : text.OpensAt base offset after) : query.PartOf offset ['('] := by
  rw [← List.nil_append after] at opensAt
  exact isPart.of_opensAt opensAt

theorem PartOf.group (isPart : query.PartOf base text) (opensAt : text.OpensAt base offset after)
    (closed : GroupText.close? after = some (inner, rest)) :
    query.PartOf offset ('(' :: (inner ++ [')'])) := by
  rw [GroupText.eq_append_of_close? closed, ← List.singleton_append, ← List.append_assoc] at opensAt
  exact isPart.of_opensAt opensAt

theorem PartOf.body (isPart : query.PartOf offset ('(' :: (inner ++ [')']))) :
    query.PartOf (offset + 1) inner := by
  obtain ⟨before, behind, rfl, rfl⟩ := isPart
  have parenthesis : Char.utf8Size '(' = 1 := rfl
  refine ⟨before ++ ['('], ')' :: behind, by simp, ?_⟩
  simp only [byteSize_append, byteSize_cons, byteSize_nil]
  omega

end Text

/-- Whether every group that is entered has just been opened, where its body lies between
parentheses of the query. -/
def EntersOpened (query : Text) (events : List Event) : Prop :=
  ∀ earlier body level later, events = earlier ++ .groupEntered body level :: later →
    ∃ opened offset, earlier = opened ++ [.groupOpened offset level] ∧
      query.PartOf offset ('(' :: (body ++ [')']))

namespace EntersOpened

variable {query : Text} {first second events : List Event}

theorem append (enters : EntersOpened query first) (further : EntersOpened query second) :
    EntersOpened query (first ++ second) := by
  intro earlier body level later split
  rcases List.append_eq_append_iff.1 split with ⟨middle, rfl, inSecond⟩ | ⟨middle, inFirst, tail⟩
  · obtain ⟨opened, offset, rfl, isPart⟩ := further _ _ _ _ inSecond
    exact ⟨first ++ opened, offset, (List.append_assoc _ _ _).symm, isPart⟩
  · cases middle with
    | nil =>
        obtain ⟨opened, offset, absurd, -⟩ := further [] _ _ _ tail.symm
        simp at absurd
    | cons event middle =>
        obtain ⟨rfl, -⟩ := List.cons.inj tail
        exact enters _ _ _ _ inFirst

theorem of_none_entered (noneEntered : ∀ body level, .groupEntered body level ∉ events) :
    EntersOpened query events := by
  rintro earlier body level later rfl
  exact absurd (by simp) (noneEntered body level)

theorem pair {offset level : Nat} {body : Text}
    (isPart : query.PartOf offset ('(' :: (body ++ [')']))) :
    EntersOpened query [.groupOpened offset level, .groupEntered body level] := by
  intro earlier other otherLevel later split
  cases earlier with
  | nil => simp at split
  | cons event earlier =>
      cases earlier with
      | nil =>
          simp only [List.cons_append, List.nil_append, List.cons.injEq,
            Event.groupEntered.injEq] at split
          obtain ⟨rfl, ⟨rfl, rfl⟩, -⟩ := split
          exact ⟨[], offset, rfl, isPart⟩
      | cons event' earlier => simp at split

end EntersOpened

/-- Whether what the event says of a group is about the query and within the limit. -/
def Event.Located (query : Text) (limit : Nat) : Event → Prop
  | .groupOpened offset level => query.PartOf offset ['('] ∧ level ≤ limit + 1
  | .groupEntered _ level => level ≤ limit
  | _ => True

theorem Event.Plain.located {event : Event} (plain : event.Plain) (query : Text) (limit : Nat) :
    event.Located query limit := by
  cases plain <;> trivial

theorem Event.Plain.ne_groupOpened {event : Event} (plain : event.Plain) (offset level : Nat) :
    event ≠ .groupOpened offset level := by
  cases plain <;> simp

theorem Event.Plain.ne_groupEntered {event : Event} (plain : event.Plain) (body : Text)
    (level : Nat) : event ≠ .groupEntered body level := by
  cases plain <;> simp

namespace History

variable {settings : Settings} {depth base : Nat} {text query : Text} {events : List Event}
  {fatal : Option Failure}

theorem located (history : History settings depth base text events fatal)
    (isPart : query.PartOf base text) (within : depth ≤ settings.maxDepth) :
    ∀ event ∈ events, event.Located query settings.maxDepth := by
  induction history with
  | begun => nofun
  | plain _ plain ih =>
      simp only [List.forall_mem_append]
      exact ⟨ih isPart within, fun event member => (plain event member).located query _⟩
  | group _ opensAt closed allowed _ ih ihInner =>
      have inner := ihInner (isPart.group opensAt closed).body allowed
      simp only [List.forall_mem_append, List.forall_mem_cons]
      exact ⟨⟨⟨ih isPart within, ⟨isPart.parenthesis opensAt, by omega⟩, allowed, nofun⟩, inner⟩,
        trivial, nofun⟩
  | unclosed _ opensAt _ ih | tooDeep _ opensAt _ _ ih =>
      simp only [List.forall_mem_append, List.forall_mem_cons]
      exact ⟨ih isPart within, ⟨isPart.parenthesis opensAt, by omega⟩, trivial, nofun⟩
  | inside _ opensAt closed allowed _ ih ihInner =>
      have inner := ihInner (isPart.group opensAt closed).body allowed
      simp only [List.forall_mem_append, List.forall_mem_cons]
      exact ⟨⟨⟨ih isPart within, ⟨isPart.parenthesis opensAt, by omega⟩, allowed, nofun⟩, inner⟩,
        trivial, nofun⟩

theorem entersOpened (history : History settings depth base text events fatal)
    (isPart : query.PartOf base text) : EntersOpened query events := by
  induction history with
  | begun => exact .of_none_entered nofun
  | plain _ plain ih =>
      refine (ih isPart).append (.of_none_entered fun body level member => ?_)
      exact (plain _ member).ne_groupEntered body level rfl
  | group _ opensAt closed _ _ ih ihInner =>
      have isGroup := isPart.group opensAt closed
      exact (((ih isPart).append (.pair isGroup)).append (ihInner isGroup.body)).append
        (.of_none_entered (by simp))
  | unclosed _ _ _ ih | tooDeep _ _ _ _ ih => exact (ih isPart).append (.of_none_entered (by simp))
  | inside _ opensAt closed _ _ ih ihInner =>
      have isGroup := isPart.group opensAt closed
      exact (((ih isPart).append (.pair isGroup)).append (ihInner isGroup.body)).append
        (.of_none_entered (by simp))

end History

/-! ## Where the reading is ended -/

/-- What is behind the parenthesis of a group, in the text that the group lies in: that is the
text of the parse, or the body of a group that was entered. -/
inductive GroupTail (depth base : Nat) (text : Text) (events : List Event) :
    (offset level : Nat) → (after : Text) → Prop where
  | outer {offset : Nat} {after : Text} : text.OpensAt base offset after →
      GroupTail depth base text events offset (depth + 1) after
  | inner {opening level offset : Nat} {body after : Text} :
      [.groupOpened opening level, .groupEntered body level] <:+: events →
      body.OpensAt (opening + 1) offset after →
      GroupTail depth base text events offset (level + 1) after

/-- What can be wrong with a group, by the text behind its parenthesis. -/
inductive GroupFault (limit offset level : Nat) (after : Text) : Failure → Prop where
  | unclosed : GroupText.close? after = none →
      GroupFault limit offset level after (.unclosedGroup offset)
  | tooDeep : (GroupText.close? after).isSome → level = limit + 1 →
      GroupFault limit offset level after (.nestedTooDeep limit)

theorem GroupTail.of_inner {depth base first offset level : Nat} {text body after : Text}
    {events inner : List Event}
    (tail : GroupTail (depth + 1) (first + 1) body inner offset level after) :
    GroupTail depth base text
      (events ++ [.groupOpened first (depth + 1), .groupEntered body (depth + 1)] ++ inner)
      offset level after := by
  -- A group in the body of a group lies in the same text by what has happened before.
  cases tail with
  | outer opensAt => exact .inner ⟨events, inner, rfl⟩ opensAt
  | inner entered opensAt =>
      exact .inner (entered.trans (List.suffix_append _ inner).isInfix) opensAt

namespace History

variable {settings : Settings} {depth base : Nat} {text : Text} {events : List Event}
  {fatal : Option Failure}

/-- As long as the reading goes on, all groups that are opened may be entered. -/
theorem level_le (history : History settings depth base text events fatal) (unbroken : fatal = none)
    {offset level : Nat} (opened : .groupOpened offset level ∈ events) :
    level ≤ settings.maxDepth := by
  induction history with
  | begun => cases opened
  | plain _ plain ih =>
      rcases List.mem_append.1 opened with old | new
      · exact ih unbroken old
      · exact absurd rfl ((plain _ new).ne_groupOpened offset level)
  | group _ _ _ allowed _ ih ihInner =>
      simp only [List.mem_append, List.mem_cons, List.not_mem_nil, Event.groupOpened.injEq,
        reduceCtorEq, or_false] at opened
      rcases opened with (old | ⟨rfl, rfl⟩) | new
      · exact ih unbroken old
      · exact allowed
      · exact ihInner unbroken new
  | unclosed | tooDeep | inside => cases unbroken

/-- If the reading was ended, then by the group that was opened last. -/
theorem ended (history : History settings depth base text events fatal)
    (within : depth ≤ settings.maxDepth) {failure : Failure} (failed : fatal = some failure) :
    ∃ earlier offset level after count,
      events = earlier ++ .groupOpened offset level ::
        List.replicate (count + 1) (.aborted failure) ∧
      (∀ other otherLevel, .groupOpened other otherLevel ∈ earlier →
        otherLevel ≤ settings.maxDepth) ∧
      GroupTail depth base text earlier offset level after ∧
      GroupFault settings.maxDepth offset level after failure := by
  induction history with
  | begun | plain | group => cases failed
  | unclosed history opensAt notClosed =>
      cases failed
      exact ⟨_, _, _, _, 0, rfl, fun _ _ => history.level_le rfl, .outer opensAt,
        .unclosed notClosed⟩
  | @tooDeep depth _ _ _ _ _ history opensAt closed atLimit =>
      cases failed
      have isLimit : depth + 1 = settings.maxDepth + 1 := by omega
      exact ⟨_, _, _, _, 0, rfl, fun _ _ => history.level_le rfl, .outer opensAt,
        .tooDeep closed isLimit⟩
  | @inside depth _ first _ _ body _ events _ _ history opensAt closed allowed _ _ ihInner =>
      cases failed
      obtain ⟨earlier, offset, level, after, count, rfl, levels, tail, fault⟩ := ihInner allowed rfl
      refine ⟨events ++ [.groupOpened first (depth + 1), .groupEntered body (depth + 1)] ++ earlier,
        offset, level, after, count + 1, ?_, ?_, tail.of_inner, fault⟩
      · simp [List.replicate_succ']
      · intro other otherLevel opened
        simp only [List.mem_append, List.mem_cons, List.not_mem_nil, Event.groupOpened.injEq,
          reduceCtorEq, or_false] at opened
        rcases opened with (old | ⟨rfl, rfl⟩) | new
        · exact history.level_le rfl old
        · exact allowed
        · exact levels other otherLevel new

end History

theorem fatal?_eq_some_iff {parsed : Parsed} {failure : Failure} :
    parsed.fatal? = some failure ↔ parsed.failure = some failure ∧ failure.isFatal := by
  simp [Parsed.fatal?, Option.filter_eq_some_iff]

theorem limit_of_nestedTooDeep {settings : Settings} {query : Text} {limit : Nat}
    (failed : (parse settings query).failure = some (.nestedTooDeep limit)) :
    limit = settings.maxDepth := by
  obtain ⟨earlier, offset, level, after, count, events, levels, tail, fault⟩ :=
    (history_parseAt settings 0 0 query).ended (Nat.zero_le _)
      (fatal?_eq_some_iff.2 ⟨failed, rfl⟩)
  cases fault
  rfl

/-- What a log says of groups is about the whole query. A group that is opened begins at a
parenthesis of the query. A group that is entered was opened right before; its body is what stands
behind that parenthesis, up to another one. If a group is reported as unclosed, it is the one that
was opened last, and the text it lies in does not close it. -/
theorem group_events_in_query (settings : Settings) (query : Text) :
    let parsed := parse settings query
    (∀ offset level, .groupOpened offset level ∈ parsed.events →
      ∃ before after, query = before ++ '(' :: after ∧ Text.byteSize before = offset) ∧
    (∀ earlier body level later, parsed.events = earlier ++ .groupEntered body level :: later →
      ∃ opened offset before after, earlier = opened ++ [.groupOpened offset level] ∧
        query = before ++ '(' :: body ++ ')' :: after ∧ Text.byteSize before = offset) ∧
    ∀ offset, parsed.failure = some (.unclosedGroup offset) →
      ∃ earlier level after later, parsed.events = earlier ++ .groupOpened offset level :: later ∧
        (∀ other otherLevel, .groupOpened other otherLevel ∉ later) ∧
        GroupTail 0 0 query earlier offset level after ∧ GroupText.close? after = none := by
  intro parsed
  have history : History settings 0 0 query parsed.events parsed.fatal? :=
    history_parseAt settings 0 0 query
  have whole := Text.partOf_self query
  refine ⟨?_, ?_, ?_⟩
  · intro offset level opened
    obtain ⟨⟨before, after, isQuery, size⟩, -⟩ :=
      history.located whole (Nat.zero_le _) _ opened
    exact ⟨before, after, by simpa using isQuery, size⟩
  · intro earlier body level later split
    obtain ⟨opened, offset, isEarlier, before, after, isQuery, size⟩ :=
      history.entersOpened whole earlier body level later split
    exact ⟨opened, offset, before, after, isEarlier, by simpa using isQuery, size⟩
  · intro offset failed
    obtain ⟨earlier, last, level, after, count, events, -, tail, fault⟩ :=
      history.ended (Nat.zero_le _) (fatal?_eq_some_iff.2 ⟨failed, rfl⟩)
    cases fault with
    | unclosed notClosed =>
        exact ⟨earlier, level, after, _, events, by simp [List.mem_replicate], tail, notClosed⟩

/-- In `(é.'b (c d' e)` the quote hides the inner parenthesis from the scan for the outer one. -/
example :
    (parse {} ['(', 'é', '.', '\'', 'b', ' ', '(', 'c', ' ', 'd', '\'', ' ', 'e', ')']).failure =
      some (.unclosedGroup 7) := by decide +kernel

end SearchQuery
