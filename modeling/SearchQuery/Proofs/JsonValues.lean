import SearchQuery.Proofs.JsonScalars

/-! # The grammar of JSON values

`IsValue` says which texts are JSON values: scalars, and lists and objects of values, with blanks
around every part. What a value denotes plays no role, so this is the grammar of what is passed
over. Every such value is passed over up to its end, whatever it is inside of and however deep it is.
-/

namespace SearchQuery.Json

/-! ## Parts between brackets -/

/-- A part of a text, with the blanks before and after it. -/
structure Padded where
  before : Text
  inner : Text
  after : Text
  blank_before : AllBlank before
  blank_after : AllBlank after

def Padded.text (part : Padded) : Text := part.before ++ (part.inner ++ part.after)

/-- A part without blanks around it. -/
def Padded.bare (inner : Text) : Padded := ⟨[], inner, [], allBlank_nil, allBlank_nil⟩

theorem Padded.text_append (part : Padded) (rest : Text) :
    part.text ++ rest = part.before ++ (part.inner ++ (part.after ++ rest)) := by
  simp [Padded.text]

/-- A member of an object: its name and its value. -/
structure Member where
  name : Padded
  value : Padded

def Member.text (member : Member) : Text := member.name.text ++ ':' :: member.value.text

theorem Member.text_append (member : Member) (rest : Text) :
    member.text ++ rest = member.name.text ++ ':' :: (member.value.text ++ rest) := by
  simp [Member.text]

/-- The character that a list or an object begins with. -/
def Bracket.opening : Bracket → Char
  | .list => '['
  | .object => '{'

/-- Parts with a comma before each of them, but not before the first. -/
def separated (isFirst : Bool) : List Text → Text
  | [] => []
  | part :: parts => separator isFirst ++ part ++ separated false parts

/-- The list or object of the parts. Blanks may stand in it even when there is no part. -/
def Bracket.enclose (bracket : Bracket) (blanks : Text) (parts : List Text) : Text :=
  bracket.opening :: (blanks ++ separated true parts ++ [bracket.closing])

theorem Bracket.enclose_append (bracket : Bracket) (blanks : Text) (parts : List Text)
    (rest : Text) :
    bracket.enclose blanks parts ++ rest =
      bracket.opening :: (blanks ++ (separated true parts ++ bracket.closing :: rest)) := by
  simp [Bracket.enclose]

/-! ## Values -/

def words : List Text := [['n', 'u', 'l', 'l'], ['t', 'r', 'u', 'e'], ['f', 'a', 'l', 's', 'e']]

inductive IsScalar : Text → Prop where
  | word {written : Text} : written ∈ words → IsScalar written
  | string {written : Text} : IsStringText written → IsScalar written
  | number {sign written : Text} {number : NumberText} : sign ∈ [[], ['-']] →
      IsNumberText number written → IsScalar (sign ++ written)

inductive IsValue : Text → Prop where
  | scalar {written : Text} : IsScalar written → IsValue written
  | list {blanks : Text} {items : List Padded} : AllBlank blanks →
      (∀ item ∈ items, IsValue item.inner) →
      IsValue (Bracket.list.enclose blanks (items.map Padded.text))
  | object {blanks : Text} {members : List Member} : AllBlank blanks →
      (∀ member ∈ members, IsStringText member.name.inner) →
      (∀ member ∈ members, IsValue member.value.inner) →
      IsValue (Bracket.object.enclose blanks (members.map Member.text))

/-! ## What stands behind a part -/

theorem EndsNumber.append {blanks rest : Text} (ends : EndsNumber rest) (blank : AllBlank blanks) :
    EndsNumber (blanks ++ rest) := by
  cases blanks with
  | nil => exact ends
  | cons c blanks =>
      rintro _ ⟨⟩
      have isBlank := of_decide_eq_true (blank c List.mem_cons_self)
      simp only [List.mem_cons, List.not_mem_nil, or_false] at isBlank
      rcases isBlank with rfl | rfl | rfl | rfl <;> decide

theorem endsNumber_separated (bracket : Bracket) (parts : List Text) (rest : Text) :
    EndsNumber (separated false parts ++ bracket.closing :: rest) := by
  cases parts with
  | nil =>
      rintro _ ⟨⟩
      cases bracket <;> decide
  | cons part parts =>
      rintro _ ⟨⟩
      decide

/-! ## Scalars -/

theorem skipWord_append (word rest : Text) : skipWord word (word ++ rest) = .ok rest := by
  induction word with
  | nil => rfl
  | cons c word ih =>
      rw [List.cons_append, skipWord, if_pos rfl]
      exact ih

theorem IsNumberText.exists_cons {number : NumberText} {written : Text}
    (isNumber : IsNumberText number written) :
    ∃ digit others, written = digit :: others ∧ digit.isDigit := by
  obtain ⟨isDigits, -, -, -⟩ := isNumber
  obtain ⟨digit, others, rfl, isDigit⟩ := isDigits.exists_cons
  exact ⟨digit, _, rfl, isDigit⟩

theorem IsNumberText.skipNumber_append {number : NumberText} {written rest : Text}
    (isNumber : IsNumberText number written) (ends : EndsNumber rest) :
    skipNumber (written ++ rest) = .ok rest := by
  rw [skipNumber, isNumber.readNumberText_append ends]

theorem skipScalar_of_isDigit {digit : Char} (isDigit : digit.isDigit) (rest : Text) :
    skipScalar (digit :: rest) = skipNumber (digit :: rest) := by
  unfold skipScalar
  split <;> simp_all

theorem IsScalar.skipScalar_append {written rest : Text} (isScalar : IsScalar written)
    (ends : EndsNumber rest) : skipScalar (written ++ rest) = .ok rest := by
  cases isScalar with
  | word isWord =>
      simp only [words, List.mem_cons, List.not_mem_nil, or_false] at isWord
      rcases isWord with rfl | rfl | rfl
      · exact skipWord_append ['u', 'l', 'l'] rest
      · exact skipWord_append ['r', 'u', 'e'] rest
      · exact skipWord_append ['a', 'l', 's', 'e'] rest
  | string isString =>
      obtain ⟨inner, rfl, skipped⟩ := isString.exists_inner
      exact skipped rest
  | number isSign isNumber =>
      have skipped := isNumber.skipNumber_append ends
      simp only [List.mem_cons, List.not_mem_nil, or_false] at isSign
      rcases isSign with rfl | rfl
      · obtain ⟨digit, others, rfl, isDigit⟩ := isNumber.exists_cons
        exact (skipScalar_of_isDigit isDigit _).trans skipped
      · exact skipped

theorem IsScalar.exists_cons {written : Text} (isScalar : IsScalar written) :
    ∃ c others, written = c :: others ∧ isBlank c = false ∧ c ∉ ['[', '{', ']'] := by
  cases isScalar with
  | word isWord =>
      simp only [words, List.mem_cons, List.not_mem_nil, or_false] at isWord
      rcases isWord with rfl | rfl | rfl <;> exact ⟨_, _, rfl, rfl, by decide⟩
  | string isString =>
      obtain ⟨inner, rfl, -⟩ := isString.exists_inner
      exact ⟨_, _, rfl, rfl, by decide⟩
  | number isSign isNumber =>
      simp only [List.mem_cons, List.not_mem_nil, or_false] at isSign
      rcases isSign with rfl | rfl
      · obtain ⟨digit, others, rfl, isDigit⟩ := isNumber.exists_cons
        refine ⟨_, _, rfl, not_isBlank_of_isDigit isDigit, ?_⟩
        simp only [List.mem_cons, List.not_mem_nil, or_false]
        rintro (rfl | rfl | rfl) <;> cases isDigit
      · exact ⟨_, _, rfl, rfl, by decide⟩

theorem IsValue.exists_cons {written : Text} (isValue : IsValue written) :
    ∃ c others, written = c :: others ∧ isBlank c = false ∧ c ≠ ']' := by
  cases isValue with
  | scalar isScalar =>
      obtain ⟨c, others, rfl, printable, notBracket⟩ := isScalar.exists_cons
      refine ⟨c, others, rfl, printable, ?_⟩
      rintro rfl
      exact notBracket (by decide)
  | list => exact ⟨_, _, rfl, rfl, by decide⟩
  | object => exact ⟨_, _, rfl, rfl, by decide⟩

/-! ## Steps of passing over -/

section

variable {enclosing outer : List Bracket} {bracket : Bracket} {t inner rest : Text} {c : Char}

/-- Passes over what follows an opening bracket or a comma: the name of a member, if it is an object
that is passed over, and the value. -/
def skipPart (bracket : Bracket) (outer : List Bracket) (t : Text) : Except Problem Text :=
  match bracket with
  | .list => skipValue (.list :: outer) t
  | .object =>
    match skipName t with
    | .error problem => .error problem
    | .ok value => skipValue (.object :: outer) value

theorem skipValue_scalar (written : skipBlanks t = c :: inner) (notBracket : c ∉ ['[', '{', ']'])
    (skipped : skipScalar (c :: inner) = .ok rest) :
    skipValue enclosing t = skipMore enclosing rest := by
  rw [skipValue]
  generalize skipBlanks t = found at written ⊢
  subst written
  split
  · simp_all
  · simp_all
  · generalize skipScalar (c :: inner) = scalar at skipped ⊢
    subst skipped
    rfl

theorem skipValue_empty (opened : skipBlanks t = bracket.opening :: inner)
    (closed : skipBlanks inner = bracket.closing :: rest) :
    skipValue enclosing t = skipMore enclosing rest := by
  rw [skipValue]
  generalize skipBlanks t = found at opened ⊢
  subst opened
  cases bracket <;>
    · simp only [Bracket.opening]
      generalize skipBlanks inner = found at closed ⊢
      subst closed
      rfl

theorem skipValue_part (opened : skipBlanks t = bracket.opening :: inner)
    (begins : skipBlanks inner = c :: rest) (notEnd : c ≠ bracket.closing) :
    skipValue enclosing t = skipPart bracket enclosing inner := by
  rw [skipValue]
  generalize skipBlanks t = found at opened ⊢
  subst opened
  cases bracket with
  | list =>
      simp only [Bracket.opening, skipPart]
      generalize skipBlanks inner = found at begins ⊢
      subst begins
      split <;> simp_all [Bracket.closing]
  | object =>
      simp only [Bracket.opening, skipPart]
      generalize skipBlanks inner = found at begins ⊢
      subst begins
      generalize skipName inner = named
      split
      · simp_all [Bracket.closing]
      · simp_all
      · cases named <;> rfl

theorem skipMore_end (closed : skipBlanks t = bracket.closing :: rest) :
    skipMore (bracket :: outer) t = skipMore outer rest := by
  rw [skipMore]
  generalize skipBlanks t = found at closed ⊢
  subst closed
  exact if_pos rfl

theorem skipMore_part (comma : skipBlanks t = ',' :: rest) :
    skipMore (bracket :: outer) t = skipPart bracket outer rest := by
  have notEnd : ',' ≠ bracket.closing := by cases bracket <;> decide
  rw [skipMore]
  generalize skipBlanks t = found at comma ⊢
  subst comma
  dsimp only
  rw [if_neg notEnd, if_pos rfl]
  cases bracket with
  | list => rfl
  | object =>
      unfold skipPart
      dsimp only
      generalize skipName rest = named
      cases named <;> rfl

theorem skipMore_blanks {blanks : Text} (blank : AllBlank blanks) (t : Text) :
    skipMore (bracket :: outer) (blanks ++ t) = skipMore (bracket :: outer) t := by
  have same := skipBlanks_append blank t
  rw [skipMore, skipMore]
  generalize skipBlanks (blanks ++ t) = found at same ⊢
  subst same
  rfl

end

/-! ## Values are passed over -/

/-- The value is passed over up to its end, wherever it stands. -/
def Skips (value : Text) : Prop :=
  ∀ (enclosing : List Bracket) {blanks rest : Text}, AllBlank blanks → EndsNumber rest →
    skipValue enclosing (blanks ++ (value ++ rest)) = skipMore enclosing rest

/-- A part of a list or an object is seen to be one and passed over up to its end. -/
structure SkipsPart (bracket : Bracket) (part : Text) : Prop where
  begins {blanks : Text} (rest : Text) : AllBlank blanks →
    ∃ c others, skipBlanks (blanks ++ (part ++ rest)) = c :: others ∧ c ≠ bracket.closing
  passes (outer : List Bracket) {blanks rest : Text} : AllBlank blanks → EndsNumber rest →
    skipPart bracket outer (blanks ++ (part ++ rest)) = skipMore (bracket :: outer) rest

theorem IsScalar.skips {written : Text} (isScalar : IsScalar written) : Skips written := by
  intro enclosing blanks rest blank ends
  have skipped := isScalar.skipScalar_append ends
  obtain ⟨c, others, rfl, printable, notBracket⟩ := isScalar.exists_cons
  exact skipValue_scalar (skipBlanks_append_cons blank printable _) notBracket skipped

theorem Padded.skips_item {item : Padded} (isValue : IsValue item.inner)
    (skips : Skips item.inner) : SkipsPart .list item.text where
  begins := by
    intro blanks rest blank
    obtain ⟨c, others, begins, printable, notEnd⟩ := isValue.exists_cons
    refine ⟨c, others ++ (item.after ++ rest), ?_, notEnd⟩
    rw [item.text_append, begins, skipBlanks_append blank]
    exact skipBlanks_append_cons item.blank_before printable _
  passes := by
    intro outer blanks rest blank ends
    rw [item.text_append, ← List.append_assoc, skipPart,
      skips _ (blank.append item.blank_before) (ends.append item.blank_after),
      skipMore_blanks item.blank_after]

theorem Padded.skipName_append {name : Padded} {blanks : Text} (isString : IsStringText name.inner)
    (blank : AllBlank blanks) (rest : Text) :
    skipName (blanks ++ (name.text ++ ':' :: rest)) = .ok rest := by
  obtain ⟨inner, begins, skipped⟩ := isString.exists_inner
  have quote : skipBlanks (blanks ++ (name.text ++ ':' :: rest)) =
      '"' :: (inner ++ (name.after ++ ':' :: rest)) := by
    rw [name.text_append, begins, skipBlanks_append blank]
    exact skipBlanks_append_cons name.blank_before rfl _
  have colon : skipBlanks (name.after ++ ':' :: rest) = ':' :: rest :=
    skipBlanks_append_cons name.blank_after rfl rest
  rw [skipName, quote]
  simp only [skipped, colon]

theorem Member.skips {member : Member} (isString : IsStringText member.name.inner)
    (skips : Skips member.value.inner) : SkipsPart .object member.text where
  begins := by
    intro blanks rest blank
    obtain ⟨inner, begins, -⟩ := isString.exists_inner
    refine ⟨'"', inner ++ (member.name.after ++ ':' :: (member.value.text ++ rest)), ?_, by decide⟩
    rw [member.text_append, member.name.text_append, begins, skipBlanks_append blank]
    exact skipBlanks_append_cons member.name.blank_before rfl _
  passes := by
    intro outer blanks rest blank ends
    rw [member.text_append, skipPart, Padded.skipName_append isString blank]
    dsimp only
    rw [member.value.text_append,
      skips _ member.value.blank_before (ends.append member.value.blank_after),
      skipMore_blanks member.value.blank_after]

section

variable {bracket : Bracket} {parts : List Text}

/-- Behind a part the others are passed over up to the closing bracket. -/
theorem skipMore_separated (skips : ∀ part ∈ parts, SkipsPart bracket part) (outer : List Bracket)
    (rest : Text) :
    skipMore (bracket :: outer) (separated false parts ++ bracket.closing :: rest) =
      skipMore outer rest := by
  have closingPrintable : isBlank bracket.closing = false := by cases bracket <;> decide
  induction parts with
  | nil => exact skipMore_end (skipBlanks_cons closingPrintable rest)
  | cons part parts ih =>
      obtain ⟨skipsPart, skipsOthers⟩ := List.forall_mem_cons.1 skips
      have comma : skipBlanks (separated false (part :: parts) ++ bracket.closing :: rest) =
          ',' :: ([] ++ (part ++ (separated false parts ++ bracket.closing :: rest))) := by
        simp [separated, separator, skipBlanks_cons (c := ',') rfl]
      rw [skipMore_part comma,
        skipsPart.passes outer allBlank_nil (endsNumber_separated bracket parts rest)]
      exact ih skipsOthers

theorem skips_enclose {inside : Text} (blank : AllBlank inside)
    (skips : ∀ part ∈ parts, SkipsPart bracket part) : Skips (bracket.enclose inside parts) := by
  intro enclosing blanks rest before ends
  have openingPrintable : isBlank bracket.opening = false := by cases bracket <;> decide
  have closingPrintable : isBlank bracket.closing = false := by cases bracket <;> decide
  have opened : skipBlanks (blanks ++ (bracket.enclose inside parts ++ rest)) =
      bracket.opening :: (inside ++ (separated true parts ++ bracket.closing :: rest)) := by
    rw [bracket.enclose_append]
    exact skipBlanks_append_cons before openingPrintable _
  cases parts with
  | nil => exact skipValue_empty opened (skipBlanks_append_cons blank closingPrintable rest)
  | cons part parts =>
      obtain ⟨skipsPart, skipsOthers⟩ := List.forall_mem_cons.1 skips
      have first : separated true (part :: parts) ++ bracket.closing :: rest =
          part ++ (separated false parts ++ bracket.closing :: rest) := by
        simp [separated, separator]
      rw [first] at opened
      obtain ⟨c, others, begins, notEnd⟩ :=
        skipsPart.begins (separated false parts ++ bracket.closing :: rest) blank
      rw [skipValue_part opened begins notEnd,
        skipsPart.passes enclosing blank (endsNumber_separated bracket parts rest)]
      exact skipMore_separated skipsOthers enclosing rest

end

/-- Every value is passed over up to its end, whatever it is inside of. -/
theorem IsValue.skips {written : Text} (isValue : IsValue written) : Skips written := by
  induction isValue with
  | scalar isScalar => exact isScalar.skips
  | list blank areValues ih =>
      refine skips_enclose blank (List.forall_mem_map.2 ?_)
      intro item member
      exact Padded.skips_item (areValues item member) (ih item member)
  | object blank areStrings _ ih =>
      refine skips_enclose blank (List.forall_mem_map.2 ?_)
      intro member isMember
      exact Member.skips (areStrings member isMember) (ih member isMember)

end SearchQuery.Json
