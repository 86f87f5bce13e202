import Mathlib.Data.List.Forall2
import SearchQuery.Proofs.JsonParts
import SearchQuery.Proofs.QuotedLiteral

/-! # The grammar of JSON strings and numbers

A string is a sequence of units between quotes, each of which denotes a character, and a number is
digits with a fraction and an exponent. `IsString` and `IsNumberText` say which texts these are and
what they stand for. A string that nobody asks for need not stand for anything: `IsStringText`
leaves out what its escapes denote, so surrogates may stand in it as they like. Every such text is
read, or passed over, up to its end.
-/

namespace SearchQuery.Json

/-! ## Strings -/

/-- The characters that are an escape by themselves, each with what it denotes. -/
def namedEscapes : List (Char × Char) :=
  [('"', '"'), ('\\', '\\'), ('/', '/'), ('b', '\x08'), ('f', '\x0c'), ('n', '\n'), ('r', '\r'),
    ('t', '\t')]

/-- Whether a character can stand in a string as it is. -/
def IsPlain (c : Char) : Prop := c ≠ '"' ∧ c ≠ '\\' ∧ 0x20 ≤ c.toNat

instance : DecidablePred IsPlain := fun c =>
  inferInstanceAs (Decidable (c ≠ '"' ∧ c ≠ '\\' ∧ 0x20 ≤ c.toNat))

/-- Whether a text can stand in a string as it is. -/
def AllPlain (t : Text) : Prop := ∀ c ∈ t, IsPlain c

instance (t : Text) : Decidable (AllPlain t) := List.decidableBAll IsPlain t

/-- A part of a string, and the character that it denotes. A character beyond sixteen bits may be
written as the two surrogates that stand for it, but a surrogate denotes nothing by itself. -/
inductive StringUnit : Text → Char → Prop where
  | plain {c : Char} : IsPlain c → StringUnit [c] c
  | named {c denoted : Char} : (c, denoted) ∈ namedEscapes → StringUnit ['\\', c] denoted
  | code {a b c d denoted : Char} : Text.IsHexNumber [a, b, c, d] denoted.toNat →
      StringUnit ['\\', 'u', a, b, c, d] denoted
  | surrogates {a b c d a' b' c' d' denoted : Char} {leading trailing : Nat} :
      Text.IsHexNumber [a, b, c, d] (0xD800 + leading) →
      Text.IsHexNumber [a', b', c', d'] (0xDC00 + trailing) →
      leading < 0x400 → trailing < 0x400 →
      denoted.toNat = 0x10000 + leading * 0x400 + trailing →
      StringUnit ['\\', 'u', a, b, c, d, '\\', 'u', a', b', c', d'] denoted

/-- A string between its quotes, and the text that it stands for. -/
def IsString (written value : Text) : Prop :=
  ∃ units, List.Forall₂ StringUnit units value ∧ written = '"' :: units.flatten ++ ['"']

/-- A part of a string, whatever it denotes. -/
inductive StringPart : Text → Prop where
  | plain {c : Char} : IsPlain c → StringPart [c]
  | named {c denoted : Char} : (c, denoted) ∈ namedEscapes → StringPart ['\\', c]
  | code {a b c d : Char} {number : Nat} : Text.IsHexNumber [a, b, c, d] number →
      StringPart ['\\', 'u', a, b, c, d]

/-- A string between its quotes, whatever it stands for. -/
def IsStringText (written : Text) : Prop :=
  ∃ parts : List Text, (∀ part ∈ parts, StringPart part) ∧ written = '"' :: parts.flatten ++ ['"']

theorem readHex_append {a b c d : Char} {number : Nat}
    (isNumber : Text.IsHexNumber [a, b, c, d] number) (rest : Text) :
    readHex (a :: b :: c :: d :: rest) = .ok (number, rest) := by
  simp only [readHex, Text.hexNumber?_eq_some_iff.2 isNumber]

theorem simpleEscape?_of_named {c denoted : Char} (isNamed : (c, denoted) ∈ namedEscapes) :
    simpleEscape? c = some denoted ∧ c ≠ 'u' := by
  have all : ∀ named ∈ namedEscapes, simpleEscape? named.1 = some named.2 ∧ named.1 ≠ 'u' := by
    decide
  exact all _ isNamed

theorem readEscape_named {c denoted : Char} (isNamed : (c, denoted) ∈ namedEscapes) (rest : Text) :
    readEscape (c :: rest) = .ok (denoted, rest) := by
  obtain ⟨isEscape, _notCode⟩ := simpleEscape?_of_named isNamed
  simp [readEscape, isEscape]

theorem readEscape_code {a b c d denoted : Char}
    (isNumber : Text.IsHexNumber [a, b, c, d] denoted.toNat) (rest : Text) :
    readEscape ('u' :: a :: b :: c :: d :: rest) = .ok (denoted, rest) := by
  -- The code point of a character is no surrogate.
  have valid := denoted.valid
  simp only [UInt32.isValidChar, Nat.isValidChar, Char.toNat_val] at valid
  have notTrailing : ¬ (0xDC00 ≤ denoted.toNat ∧ denoted.toNat ≤ 0xDFFF) := by omega
  have notLeading : denoted.toNat < 0xD800 ∨ 0xDBFF < denoted.toNat := by omega
  simp only [readEscape, readCodeUnits, readHex_append isNumber, notTrailing, notLeading,
    ↓reduceIte, Char.ofNat_toNat]

theorem readEscape_surrogates {a b c d a' b' c' d' denoted : Char} {leading trailing : Nat}
    (isLeading : Text.IsHexNumber [a, b, c, d] (0xD800 + leading))
    (isTrailing : Text.IsHexNumber [a', b', c', d'] (0xDC00 + trailing))
    (leadingLt : leading < 0x400) (trailingLt : trailing < 0x400)
    (isCode : denoted.toNat = 0x10000 + leading * 0x400 + trailing) (rest : Text) :
    readEscape ('u' :: a :: b :: c :: d :: '\\' :: 'u' :: a' :: b' :: c' :: d' :: rest) =
      .ok (denoted, rest) := by
  have notTrailing : ¬ (0xDC00 ≤ 0xD800 + leading ∧ 0xD800 + leading ≤ 0xDFFF) := by omega
  have inLeading : ¬ (0xD800 + leading < 0xD800 ∨ 0xDBFF < 0xD800 + leading) := by omega
  have inTrailing : 0xDC00 ≤ 0xDC00 + trailing ∧ 0xDC00 + trailing ≤ 0xDFFF := by omega
  have isPair : pairedChar (0xD800 + leading) (0xDC00 + trailing) = denoted := by
    rw [pairedChar, Nat.add_sub_cancel_left, Nat.add_sub_cancel_left, ← isCode, Char.ofNat_toNat]
  simp only [readEscape, readCodeUnits, readHex_append isLeading, readHex_append isTrailing,
    notTrailing, inLeading, inTrailing, and_self, ↓reduceIte, isPair]

theorem StringUnit.readString_append {written : Text} {denoted : Char}
    (unit : StringUnit written denoted) (rest : Text) :
    readString (written ++ rest) = Reading.mapValue (denoted :: ·) (readString rest) := by
  cases unit with
  | plain isPlain =>
      obtain ⟨notQuote, notEscape, printable⟩ := isPlain
      exact readString_cons notQuote notEscape (Nat.not_lt.2 printable)
  | named isNamed => exact readString_escape (readEscape_named isNamed rest)
  | code isNumber => exact readString_escape (readEscape_code isNumber rest)
  | surrogates isLeading isTrailing leadingLt trailingLt isCode =>
      exact readString_escape
        (readEscape_surrogates isLeading isTrailing leadingLt trailingLt isCode rest)

theorem readString_flatten {units : List Text} {value : Text}
    (isUnits : List.Forall₂ StringUnit units value) (rest : Text) :
    readString (units.flatten ++ '"' :: rest) = .ok (value, rest) := by
  induction isUnits with
  | nil => exact readString_quote rest
  | cons unit _ ih =>
      rw [List.flatten_cons, List.append_assoc, unit.readString_append, ih]
      rfl

theorem units_plain {value : Text} (plain : AllPlain value) :
    List.Forall₂ StringUnit (value.map ([·])) value := by
  induction value with
  | nil => exact .nil
  | cons c value ih =>
      obtain ⟨isPlain, plain⟩ := List.forall_mem_cons.1 plain
      exact .cons (.plain isPlain) (ih plain)

theorem isString_plain {value : Text} (plain : AllPlain value) :
    IsString ('"' :: value ++ ['"']) value := by
  refine ⟨value.map ([·]), units_plain plain, ?_⟩
  rw [← List.flatMap_def, List.flatMap_singleton']

theorem skipString_cons {c : Char} {t : Text} (isPlain : IsPlain c) :
    skipString (c :: t) = skipString t := by
  obtain ⟨notQuote, notEscape, printable⟩ := isPlain
  rw [skipString]
  simp only [notQuote, notEscape, Nat.not_lt.2 printable, ↓reduceIte]

theorem skipString_escape {t rest : Text} (escape : skipEscape t = .ok rest) :
    skipString ('\\' :: t) = skipString rest := by
  rw [skipString]
  simp only [Char.reduceEq, ↓reduceIte]
  split <;> simp_all

theorem StringPart.skipString_append {part : Text} (isPart : StringPart part) (rest : Text) :
    skipString (part ++ rest) = skipString rest := by
  cases isPart with
  | plain isPlain => exact skipString_cons isPlain
  | named isNamed =>
      obtain ⟨isEscape, _notCode⟩ := simpleEscape?_of_named isNamed
      refine skipString_escape ?_
      simp [skipEscape, isEscape]
  | code isNumber =>
      refine skipString_escape ?_
      simp [skipEscape, readHex_append isNumber, Except.map]

theorem skipString_flatten {parts : List Text} (isParts : ∀ part ∈ parts, StringPart part)
    (rest : Text) : skipString (parts.flatten ++ '"' :: rest) = .ok rest := by
  induction parts with
  | nil =>
      rw [List.flatten_nil, List.nil_append, skipString]
      rfl
  | cons part parts ih =>
      obtain ⟨isPart, isParts⟩ := List.forall_mem_cons.1 isParts
      rw [List.flatten_cons, List.append_assoc, isPart.skipString_append, ih isParts]

theorem IsString.exists_inner {written value : Text} (isString : IsString written value) :
    ∃ inner, written = '"' :: inner ∧ ∀ rest, readString (inner ++ rest) = .ok (value, rest) := by
  obtain ⟨units, isUnits, rfl⟩ := isString
  refine ⟨units.flatten ++ ['"'], rfl, ?_⟩
  intro rest
  rw [List.append_assoc]
  exact readString_flatten isUnits rest

theorem IsStringText.exists_inner {written : Text} (isString : IsStringText written) :
    ∃ inner, written = '"' :: inner ∧ ∀ rest, skipString (inner ++ rest) = .ok rest := by
  obtain ⟨parts, isParts, rfl⟩ := isString
  refine ⟨parts.flatten ++ ['"'], rfl, ?_⟩
  intro rest
  rw [List.append_assoc]
  exact skipString_flatten isParts rest

/-! ## Numbers -/

/-- Whether a text is one or more digits. -/
def IsDigits (t : Text) : Prop := t ≠ [] ∧ ∀ c ∈ t, c.isDigit

theorem not_isBlank_of_isDigit {c : Char} (isDigit : c.isDigit) : isBlank c = false := by
  refine decide_eq_false fun blank => ?_
  simp only [List.mem_cons, List.not_mem_nil, or_false] at blank
  rcases blank with rfl | rfl | rfl | rfl <;> cases isDigit

theorem IsDigits.exists_cons {digits : Text} (isDigits : IsDigits digits) :
    ∃ digit others, digits = digit :: others ∧ digit.isDigit := by
  obtain ⟨digit, others, rfl⟩ := List.exists_cons_of_ne_nil isDigits.1
  exact ⟨digit, others, rfl, isDigits.2 digit List.mem_cons_self⟩

/-- An exponent as it is written, with whether it is negative and its digits, or nothing. -/
inductive IsExponent : Option (Bool × Text) → Text → Prop where
  | none : IsExponent none []
  | signed {mark : Char} {sign digits : Text} {isNegative : Bool} : mark ∈ ['e', 'E'] →
      (sign, isNegative) ∈ [([], false), (['+'], false), (['-'], true)] → IsDigits digits →
      IsExponent (some (isNegative, digits)) (mark :: sign ++ digits)

/-- A fraction as it is written, with its digits, or nothing. -/
inductive IsFraction : Option Text → Text → Prop where
  | none : IsFraction none []
  | digits {digits : Text} : IsDigits digits → IsFraction (some digits) ('.' :: digits)

/-- A number without its sign, and the text that it is written in. Only a single zero begins with
one. -/
inductive IsNumberText : NumberText → Text → Prop where
  | mk {integer fractionText exponentText : Text} {fraction : Option Text}
      {exponent : Option (Bool × Text)} : IsDigits integer →
      (integer.head? = some '0' → integer = ['0']) → IsFraction fraction fractionText →
      IsExponent exponent exponentText →
      IsNumberText ⟨integer, fraction, exponent⟩ (integer ++ fractionText ++ exponentText)

/-- Whether a number can end before the text. -/
def EndsNumber (rest : Text) : Prop := ∀ c ∈ rest.head?, ¬ c.isDigit ∧ c ∉ ['.', 'e', 'E']

theorem readDigits_append {digits rest : Text} (isDigits : IsDigits digits)
    (ends : ∀ c ∈ rest.head?, ¬ c.isDigit) : readDigits (digits ++ rest) = .ok (digits, rest) := by
  obtain ⟨nonempty, isDigits⟩ := isDigits
  have none : rest.takeWhile Char.isDigit = [] ∧ rest.dropWhile Char.isDigit = rest := by
    cases rest with
    | nil => exact ⟨rfl, rfl⟩
    | cons c rest =>
        have notDigit := ends c rfl
        simp [notDigit]
  have inside : (digits ++ rest).takeWhile Char.isDigit = digits := by
    rw [List.takeWhile_append_of_pos isDigits, none.1, List.append_nil]
  have behind : (digits ++ rest).dropWhile Char.isDigit = rest := by
    rw [List.dropWhile_append_of_pos isDigits, none.2]
  obtain ⟨digit, digits, rfl⟩ := List.exists_cons_of_ne_nil nonempty
  unfold readDigits
  rw [inside, behind]

theorem readInteger_append {integer rest : Text} (isDigits : IsDigits integer)
    (noZero : integer.head? = some '0' → integer = ['0'])
    (ends : ∀ c ∈ rest.head?, ¬ c.isDigit) :
    readInteger (integer ++ rest) = .ok (integer, rest) := by
  unfold readInteger
  rw [readDigits_append isDigits ends]
  split
  · rename_i zero
    simp only [Except.ok.injEq, Prod.mk.injEq] at zero
    rw [zero.1] at noZero
    cases noZero rfl
  · rfl

theorem IsFraction.readFraction_append {fraction : Option Text} {written rest : Text}
    (isFraction : IsFraction fraction written)
    (ends : ∀ c ∈ rest.head?, ¬ c.isDigit ∧ c ≠ '.') :
    readFraction (written ++ rest) = .ok (fraction, rest) := by
  cases isFraction with
  | none =>
      cases rest with
      | nil => rfl
      | cons c rest => simp [readFraction, (ends c rfl).2]
  | digits isDigits =>
      have read := readDigits_append isDigits fun c member => (ends c member).1
      simp [readFraction, read, Reading.mapValue]

theorem IsExponent.readExponent_append {exponent : Option (Bool × Text)} {written rest : Text}
    (isExponent : IsExponent exponent written) (ends : EndsNumber rest) :
    readExponent (written ++ rest) = .ok (exponent, rest) := by
  cases isExponent with
  | none =>
      cases rest with
      | nil => rfl
      | cons c rest =>
          have notMark := (ends c rfl).2
          simp only [List.mem_cons, List.not_mem_nil, or_false, not_or] at notMark
          simp [readExponent, notMark.2]
  | @signed mark sign digits isNegative isMark isSign isDigits =>
      have read := readDigits_append isDigits fun c member => (ends c member).1
      have isMark : mark = 'e' ∨ mark = 'E' := by simpa using isMark
      obtain ⟨digit, others, rfl⟩ := List.exists_cons_of_ne_nil isDigits.1
      have isDigit := isDigits.2 digit List.mem_cons_self
      simp only [List.mem_cons, Prod.mk.injEq, List.not_mem_nil, or_false] at isSign
      rcases isSign with ⟨rfl, rfl⟩ | ⟨rfl, rfl⟩ | ⟨rfl, rfl⟩
      · have notSign : digit ≠ '-' ∧ digit ≠ '+' := by
          constructor <;> (rintro rfl; revert isDigit; decide)
        simp only [List.cons_append] at read
        simp [readExponent, isMark, notSign, read, Reading.mapValue]
      · simp only [List.cons_append] at read
        simp [readExponent, isMark, read, Reading.mapValue]
      · simp only [List.cons_append] at read
        simp [readExponent, isMark, read, Reading.mapValue]

theorem IsExponent.head_append {exponent : Option (Bool × Text)} {written rest : Text}
    (isExponent : IsExponent exponent written) (ends : EndsNumber rest) :
    ∀ c ∈ (written ++ rest).head?, ¬ c.isDigit ∧ c ≠ '.' := by
  -- Neither a fraction nor an exponent begins with a digit, and an exponent with no point.
  cases isExponent with
  | none =>
      intro c member
      obtain ⟨notDigit, notMark⟩ := ends c member
      exact ⟨notDigit, fun isPoint => notMark (isPoint ▸ List.mem_cons_self)⟩
  | signed isMark _ _ =>
      rintro _ ⟨⟩
      revert isMark
      simp only [List.mem_cons, List.not_mem_nil, or_false]
      rintro (rfl | rfl) <;> decide

theorem IsFraction.head_append {fraction : Option Text} {written rest : Text}
    (isFraction : IsFraction fraction written)
    (ends : ∀ c ∈ rest.head?, ¬ c.isDigit) : ∀ c ∈ (written ++ rest).head?, ¬ c.isDigit := by
  cases isFraction with
  | none => exact ends
  | digits _ =>
      rintro _ ⟨⟩
      decide

/-- A number is read up to its end. -/
theorem IsNumberText.readNumberText_append {number : NumberText} {written rest : Text}
    (isNumber : IsNumberText number written) (ends : EndsNumber rest) :
    readNumberText (written ++ rest) = .ok (number, rest) := by
  obtain ⟨isDigits, noZero, isFraction, isExponent⟩ := isNumber
  have behindFraction := isExponent.head_append ends
  have behindInteger := isFraction.head_append fun c member => (behindFraction c member).1
  rw [List.append_assoc, List.append_assoc, readNumberText,
    readInteger_append isDigits noZero behindInteger]
  simp only [bind, Except.bind, pure, Except.pure, isFraction.readFraction_append behindFraction,
    isExponent.readExponent_append ends]

/-! ## Natural numbers -/

theorem ofNat_eq_of_head_zero (n : Nat) :
    (Text.ofNat n).head? = some '0' → Text.ofNat n = ['0'] := by
  unfold Text.ofNat
  induction n using Nat.strongRecOn with
  | ind n ih =>
    rw [Nat.toDigits_eq_if (by decide : 1 < 10)]
    split
    · simp
    · rename_i notDigit
      rw [List.head?_append_of_ne_nil _ Nat.toDigits_ne_nil]
      intro zero
      -- Without its last digit the number would be zero, and it would have been a digit.
      have isZero : Nat.ofDigitChars 10 (Nat.toDigits 10 (n / 10)) 0 = 0 := by
        rw [ih (n / 10) (by omega) zero]
        rfl
      rw [Nat.ofDigitChars_ten_toDigits] at isZero
      omega

theorem isDigits_ofNat (n : Nat) : IsDigits (Text.ofNat n) :=
  ⟨Nat.toDigits_ne_nil, fun _ => Nat.isDigit_of_mem_toDigits (by decide) (by decide)⟩

theorem isNumberText_ofNat (n : Nat) : IsNumberText ⟨Text.ofNat n, none, none⟩ (Text.ofNat n) := by
  have isNumber := IsNumberText.mk (isDigits_ofNat n) (ofNat_eq_of_head_zero n) .none .none
  rwa [List.append_nil, List.append_nil] at isNumber

theorem ofDigitChars_cons (value : Nat) (digit : Char) (digits : Text) :
    Nat.ofDigitChars 10 (digit :: digits) value =
      Nat.ofDigitChars 10 digits (10 * value + digitValue digit) := Nat.ofDigitChars_cons

theorem le_ofDigitChars (value : Nat) (digits : Text) :
    value ≤ Nat.ofDigitChars 10 digits value := by
  induction digits generalizing value with
  | nil => exact Nat.le_refl value
  | cons digit digits ih =>
      have := ih (10 * value + digitValue digit)
      rw [ofDigitChars_cons]
      omega

theorem takeDigits_of_le (value : Nat) (digits : Text)
    (fits : Nat.ofDigitChars 10 digits value ≤ maxSignificand) :
    takeDigits value digits = (Nat.ofDigitChars 10 digits value, 0) := by
  induction digits generalizing value with
  | nil => rfl
  | cons digit digits ih =>
      rw [ofDigitChars_cons] at fits ⊢
      have fitsNext := Nat.le_trans (le_ofDigitChars _ digits) fits
      rw [takeDigits, if_pos fitsNext]
      exact ih _ fits

theorem takeDigits_ofNat {n : Nat} (fits : n ≤ maxSignificand) :
    takeDigits 0 (Text.ofNat n) = (n, 0) := by
  have value : Nat.ofDigitChars 10 (Text.ofNat n) 0 = n := Nat.ofDigitChars_ten_toDigits
  rw [takeDigits_of_le 0 _ (value.symm ▸ fits), value]

theorem roundToDouble_le (n : Nat) : roundToDouble n ≤ 2 * n := by
  unfold roundToDouble
  split
  · omega
  · rename_i large
    have positive : n ≠ 0 := by
      rintro rfl
      exact large (by decide)
    have unitLe : 2 ^ (n.log2 - 52) ≤ n :=
      Nat.le_trans (Nat.pow_le_pow_right (by decide) (Nat.sub_le _ _)) (Nat.log2_self_le positive)
    have lowLe := Nat.div_mul_le_self n (2 ^ (n.log2 - 52))
    simp only [Nat.pow_eq]
    split <;> omega

theorem not_exceedsDouble {n : Nat} (fits : n ≤ maxSignificand) : exceedsDouble n 0 = false := by
  have inRange : roundToDouble n < doubleLimit :=
    calc roundToDouble n ≤ 2 * n := roundToDouble_le n
      _ ≤ 2 * maxSignificand := Nat.mul_le_mul_left 2 fits
      _ < doubleLimit := by decide +kernel
  have one : roundToDouble 1 = 1 := by decide
  simp [exceedsDouble, one, inRange]

theorem readNatural_ofNat {blanks rest : Text} {n : Nat} (blank : AllBlank blanks)
    (fits : n ≤ maxSignificand) (ends : EndsNumber rest) :
    readNatural (blanks ++ (Text.ofNat n ++ rest)) = .ok (n, rest) := by
  have isNumber := isNumberText_ofNat n
  have read := isNumber.readNumberText_append ends
  have taken := takeDigits_ofNat fits
  have inRange : NumberText.outOfRange ⟨Text.ofNat n, none, none⟩ = false := by
    have scaled : NumberText.scaled ⟨Text.ofNat n, none, none⟩ = (n, 0) := by
      simp [NumberText.scaled, taken, takeDigits, exponentValue]
    simp only [NumberText.outOfRange, scaled, not_exceedsDouble fits]
  have isNatural : NumberText.natural? ⟨Text.ofNat n, none, none⟩ = some n := by
    simp only [NumberText.natural?, taken]
  have number : readNumber false (Text.ofNat n ++ rest) = .ok (some n, rest) := by
    simp only [readNumber, read, inRange, isNatural, Bool.false_eq_true, ↓reduceIte]
  obtain ⟨digit, digits, begins, isDigit⟩ := (isDigits_ofNat n).exists_cons
  rw [begins, List.cons_append] at number ⊢
  rw [readNatural, skipBlanks_append_cons blank (not_isBlank_of_isDigit isDigit)]
  simp only [isDigit, number, ↓reduceIte]

end SearchQuery.Json
