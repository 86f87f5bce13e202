import Mathlib.Data.List.Forall2
import Mathlib.Data.Nat.Digits.Defs
import SearchQuery.Proofs.Spelling

/-! # The grammar of quoted literals

Between its quotes a literal is a sequence of units, each of which denotes one character. `LiteralUnit`
says which units there are and `IsLiteral` what a literal stands for, with the numbers in escapes
given by their digits and a character by its code point. A text is read as a literal exactly if it is
one, and then as what it stands for.
-/

namespace SearchQuery.Text

/-- A hexadecimal digit of either case and its value. -/
def IsHexDigit (c : Char) (value : Nat) : Prop :=
  value < 16 ∧ (c = Nat.digitChar value ∨ c = (Nat.digitChar value).toUpper)

/-- Hexadecimal digits, the highest first, and the number that they write. -/
def IsHexNumber (digits : Text) (number : Nat) : Prop :=
  ∃ values, List.Forall₂ IsHexDigit digits values ∧ number = Nat.ofDigits 16 values.reverse

/-- The characters that are an escape by themselves, each with what it denotes. -/
def namedEscapes : List (Char × Char) :=
  [('n', '\n'), ('t', '\t'), ('r', '\r'), ('0', '\x00'), ('\\', '\\'), ('"', '"'), ('\'', '\'')]

/-- What can stand behind a backslash, and the character that it denotes. A number denotes the
character with that code point, so there has to be one. -/
inductive Escape : Text → Char → Prop where
  | named {c denoted : Char} : (c, denoted) ∈ namedEscapes → Escape [c] denoted
  | byte {a b denoted : Char} : IsHexNumber [a, b] denoted.toNat → Escape ['x', a, b] denoted
  | code {a b c d denoted : Char} : IsHexNumber [a, b, c, d] denoted.toNat →
      Escape ['u', a, b, c, d] denoted
  | braced {digits : Text} {denoted : Char} : digits ≠ [] → IsHexNumber digits denoted.toNat →
      Escape ('u' :: '{' :: digits ++ ['}']) denoted

/-- A part of a literal with the given quote character, and the character that it denotes. -/
inductive LiteralUnit (mark : Char) : Text → Char → Prop where
  | plain {c : Char} : c ≠ mark → c ≠ '\\' → LiteralUnit mark [c] c
  | escape {written : Text} {denoted : Char} : Escape written denoted →
      LiteralUnit mark ('\\' :: written) denoted

/-- A quoted literal and the text that it stands for. -/
def IsLiteral (text value : Text) : Prop :=
  ∃ mark ∈ ['"', '\''], ∃ units, List.Forall₂ (LiteralUnit mark) units value ∧
    text = mark :: units.flatten ++ [mark]

/-! ## Numbers -/

instance (c : Char) (value : Nat) : Decidable (IsHexDigit c value) :=
  inferInstanceAs (Decidable (_ ∧ _))

theorem hexDigit?_of_isHexDigit {c : Char} {value : Nat} (digit : IsHexDigit c value) :
    hexDigit? c = some value := by
  have lower : ∀ value < 16, hexDigit? (Nat.digitChar value) = some value := by decide
  have upper : ∀ value < 16, hexDigit? (Nat.digitChar value).toUpper = some value := by decide
  obtain ⟨small, rfl | rfl⟩ := digit
  · exact lower value small
  · exact upper value small

theorem toNat_lt_of_hexDigit? {c : Char} {value : Nat} (read : hexDigit? c = some value) :
    c.toNat < 128 := by
  have bound : ∀ last : Char, last.toNat < 128 → c ≤ last → c.toNat < 128 := by
    intro last small below
    rw [Char.le_def, UInt32.le_iff_toNat_le, Char.toNat_val, Char.toNat_val] at below
    exact Nat.lt_of_le_of_lt below small
  unfold hexDigit? at read
  split at read
  · rename_i between
    exact bound '9' (by decide) between.2
  · split at read
    · rename_i between
      exact bound 'f' (by decide) between.2
    · split at read
      · rename_i between
        exact bound 'F' (by decide) between.2
      · cases read

theorem hexDigit?_eq_some_iff {c : Char} {value : Nat} :
    hexDigit? c = some value ↔ IsHexDigit c value := by
  refine ⟨?_, hexDigit?_of_isHexDigit⟩
  intro read
  have ascii : ∀ code < 128, (hexDigit? (Char.ofNat code)).all
      fun value => decide (IsHexDigit (Char.ofNat code) value) := by decide
  have isDigit := ascii c.toNat (toNat_lt_of_hexDigit? read)
  rw [Char.ofNat_toNat, read] at isDigit
  exact of_decide_eq_true isDigit

theorem foldlM_hexDigit?_eq_some_iff {digits : Text} {start number : Nat} :
    digits.foldlM (fun number c => (hexDigit? c).map (16 * number + ·)) start = some number ↔
      ∃ values, List.Forall₂ IsHexDigit digits values ∧
        number = values.foldl (fun number value => 16 * number + value) start := by
  induction digits generalizing start with
  | nil => simp [List.forall₂_nil_left_iff, eq_comm]
  | cons c digits ih =>
      simp only [List.foldlM_cons, Option.bind_eq_bind, Option.bind_eq_some_iff,
        Option.map_eq_some_iff, hexDigit?_eq_some_iff, ih, List.forall₂_cons_left_iff]
      constructor
      · rintro ⟨_, ⟨value, digit, rfl⟩, values, isDigits, rfl⟩
        exact ⟨value :: values, ⟨value, values, digit, isDigits, rfl⟩, rfl⟩
      · rintro ⟨_, ⟨value, values, digit, isDigits, rfl⟩, rfl⟩
        exact ⟨_, ⟨value, digit, rfl⟩, values, isDigits, rfl⟩

theorem hexNumber?_eq_some_iff {digits : Text} {number : Nat} :
    hexNumber? digits = some number ↔ IsHexNumber digits number := by
  have horner : ∀ values : List Nat,
      Nat.ofDigits 16 values.reverse =
        values.foldl (fun number value => 16 * number + value) 0 := by
    intro values
    rw [Nat.ofDigits_eq_foldr, List.foldr_reverse]
    simp only [Nat.cast_id, Nat.add_comm]
  simp only [hexNumber?, foldlM_hexDigit?_eq_some_iff, IsHexNumber, horner]

theorem charOfCode?_eq_some_iff {code : Nat} {c : Char} :
    charOfCode? code = some c ↔ c.toNat = code := by
  unfold charOfCode?
  split
  · rename_i valid
    have isCode : (Char.ofNat code).toNat = code := by
      rw [Char.ofNat, dif_pos valid]
      rfl
    constructor
    · rintro ⟨⟩
      exact isCode
    · rintro rfl
      rw [Char.ofNat_toNat]
  · rename_i invalid
    constructor
    · rintro ⟨⟩
    · rintro rfl
      exact absurd c.valid invalid

theorem charOfHex?_eq_some_iff {digits : Text} {c : Char} :
    charOfHex? digits = some c ↔ IsHexNumber digits c.toNat := by
  simp [charOfHex?, Option.bind_eq_some_iff, charOfCode?_eq_some_iff, hexNumber?_eq_some_iff]

theorem IsHexDigit.not_brace {c : Char} {value : Nat} (digit : IsHexDigit c value) :
    c ≠ '{' ∧ c ≠ '}' := by
  have read := hexDigit?_of_isHexDigit digit
  constructor <;>
    · rintro rfl
      cases read

theorem IsHexNumber.not_brace {digits : Text} {number : Nat} (isNumber : IsHexNumber digits number) :
    ∀ c ∈ digits, c ≠ '{' ∧ c ≠ '}' := by
  obtain ⟨values, isDigits, -⟩ := isNumber
  induction isDigits with
  | nil => simp
  | cons digit _ ih => exact List.forall_mem_cons.2 ⟨digit.not_brace, ih⟩

/-! ## Escapes -/

/-- An escape is read up to its end, whatever follows. -/
theorem escape?_append {written : Text} {denoted : Char} (escape : Escape written denoted)
    (rest : Text) : escape? (written ++ rest) = some (denoted, rest) := by
  cases escape with
  | named isNamed =>
      simp only [namedEscapes, List.mem_cons, Prod.mk.injEq, List.not_mem_nil, or_false] at isNamed
      rcases isNamed with ⟨rfl, rfl⟩ | ⟨rfl, rfl⟩ | ⟨rfl, rfl⟩ | ⟨rfl, rfl⟩ | ⟨rfl, rfl⟩ |
        ⟨rfl, rfl⟩ | ⟨rfl, rfl⟩ <;> rfl
  | byte isNumber =>
      simp only [List.cons_append, List.nil_append, escape?, charOfHex?_eq_some_iff.2 isNumber,
        Option.map_some]
  | code isNumber =>
      have notBrace := (isNumber.not_brace _ List.mem_cons_self).1
      simp only [List.cons_append, List.nil_append, escape?, charOfHex?_eq_some_iff.2 isNumber,
        Option.map_some]
  | @braced digits _ nonempty isNumber =>
      have notClosing : ∀ c ∈ digits, (c != '}') = true := by
        intro c member
        exact bne_iff_ne.2 (isNumber.not_brace c member).2
      have inside : (digits ++ '}' :: rest).takeWhile (· != '}') = digits := by
        rw [List.takeWhile_append_of_pos notClosing]
        simp
      have behind : (digits ++ '}' :: rest).dropWhile (· != '}') = '}' :: rest := by
        rw [List.dropWhile_append_of_pos notClosing]
        simp
      obtain ⟨first, others, rfl⟩ := List.exists_cons_of_ne_nil nonempty
      have whole : 'u' :: '{' :: (first :: others) ++ ['}'] ++ rest =
          'u' :: '{' :: ((first :: others) ++ '}' :: rest) := by simp
      rw [whole]
      simp only [escape?, inside, behind, charOfHex?_eq_some_iff.2 isNumber, Option.map_some]

theorem exists_escape_of_escape? {t rest : Text} {denoted : Char}
    (read : escape? t = some (denoted, rest)) :
    ∃ written, Escape written denoted ∧ t = written ++ rest := by
  unfold escape? at read
  split at read
  case h_8 a b after =>
    simp only [Option.map_eq_some_iff, Prod.mk.injEq, charOfHex?_eq_some_iff] at read
    obtain ⟨_, isNumber, rfl, rfl⟩ := read
    exact ⟨['x', a, b], .byte isNumber, rfl⟩
  case h_9 tail =>
    split at read
    · rename_i inner
      split at read
      · rename_i digit digits closing after inside behind
        simp only [Option.map_eq_some_iff, Prod.mk.injEq, charOfHex?_eq_some_iff] at read
        obtain ⟨_, isNumber, rfl, rfl⟩ := read
        have isClosing : closing = '}' := by
          have stopped := List.head?_dropWhile_not (· != '}') inner
          rw [behind] at stopped
          simpa using stopped
        refine ⟨_, .braced (List.cons_ne_nil digit digits) isNumber, ?_⟩
        rw [← List.takeWhile_append_dropWhile (p := (· != '}')) (l := inner), inside, behind,
          isClosing]
        simp
      · cases read
    · rename_i a b c d after _
      simp only [Option.map_eq_some_iff, Prod.mk.injEq, charOfHex?_eq_some_iff] at read
      obtain ⟨_, isNumber, rfl, rfl⟩ := read
      exact ⟨['u', a, b, c, d], .code isNumber, rfl⟩
    · cases read
  case h_10 => cases read
  all_goals
    cases read
    exact ⟨[_], .named (by decide), rfl⟩

/-! ## Literals -/

theorem decode?_flatten {mark : Char} (isMark : isQuote mark) {units : List Text} {value : Text}
    (isUnits : List.Forall₂ (LiteralUnit mark) units value) :
    decode? mark units.flatten = some value := by
  induction isUnits with
  | nil => rw [List.flatten_nil, decode?]
  | @cons written denoted units value unit _ ih =>
      rw [List.flatten_cons]
      cases unit with
      | plain notMark notEscape =>
          rw [List.singleton_append, decode?, if_neg notMark, if_neg notEscape, ih, Option.map_some]
      | escape escape =>
          rw [List.cons_append, decode?_of_escape? isMark (escape?_append escape _), ih,
            Option.map_some]

theorem exists_units_of_decode? {mark : Char} {t value : Text} (read : decode? mark t = some value) :
    ∃ units, List.Forall₂ (LiteralUnit mark) units value ∧ t = units.flatten := by
  fun_induction decode? mark t generalizing value with
  | case1 =>
      cases read
      exact ⟨[], .nil, rfl⟩
  | case2 | case4 => cases read
  | case3 rest denoted after readEscape notMark ih =>
      obtain ⟨others, readOthers, rfl⟩ := Option.map_eq_some_iff.1 read
      obtain ⟨written, escape, rfl⟩ := exists_escape_of_escape? readEscape
      obtain ⟨units, isUnits, rfl⟩ := ih readOthers
      exact ⟨('\\' :: written) :: units, .cons (.escape escape) isUnits, rfl⟩
  | case5 c rest notMark notEscape ih =>
      obtain ⟨others, readOthers, rfl⟩ := Option.map_eq_some_iff.1 read
      obtain ⟨units, isUnits, rfl⟩ := ih readOthers
      exact ⟨[c] :: units, .cons (.plain notMark notEscape) isUnits, rfl⟩

theorem mem_marks_iff {mark : Char} : mark ∈ ['"', '\''] ↔ isQuote mark := by
  simp [isQuote]

theorem unquote?_of_isLiteral {text value : Text} (literal : IsLiteral text value) :
    unquote? text = some value := by
  obtain ⟨mark, isMark, units, isUnits, rfl⟩ := literal
  rw [mem_marks_iff] at isMark
  have closed : (units.flatten ++ [mark]).getLast? = some mark := List.getLast?_concat
  rw [List.cons_append, unquote?, if_pos ⟨isMark, closed⟩, List.dropLast_concat,
    decode?_flatten isMark isUnits]

theorem isLiteral_of_unquote? {text value : Text} (read : unquote? text = some value) :
    IsLiteral text value := by
  cases text with
  | nil => cases read
  | cons mark body =>
      rw [unquote?] at read
      split at read
      · rename_i quoted
        obtain ⟨units, isUnits, inside⟩ := exists_units_of_decode? read
        refine ⟨mark, mem_marks_iff.2 quoted.1, units, isUnits, ?_⟩
        rw [← inside, List.cons_append, List.dropLast_append_getLast? mark quoted.2]
      · cases read

/-- A text is read as a literal exactly if it is one, and then as what it stands for. So whatever
units stand for the characters of a text, the text is read back, and with it every text of which
only the backslashes and quote characters are written as escapes. -/
theorem unquote?_reads_literals :
    (∀ text value, unquote? text = some value ↔ IsLiteral text value) ∧
    (∀ text, unquote? text = none ↔ ∀ value, ¬ IsLiteral text value) ∧
    ∀ quotation : Quotation, IsLiteral quotation.text quotation.content ∧
      unquote? quotation.text = some quotation.content := by
  have reads : ∀ text value, unquote? text = some value ↔ IsLiteral text value :=
    fun _ _ => ⟨isLiteral_of_unquote?, unquote?_of_isLiteral⟩
  refine ⟨reads, ?_, ?_⟩
  · intro text
    rw [Option.eq_none_iff_forall_ne_some]
    exact forall_congr' fun value => not_congr (reads text value)
  · intro quotation
    have read := unquote?_text quotation
    exact ⟨isLiteral_of_unquote? read, read⟩

end SearchQuery.Text
