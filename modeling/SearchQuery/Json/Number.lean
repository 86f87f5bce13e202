import SearchQuery.Json.Basic

/-! # Numbers of JSON

A number is a natural number of 64 bits, or something else that no setting can take. The
one question about the others is whether they are numbers at all: a value beyond the range
of a double is an error of the text, not of its type. The significand holds only as many
digits as fit into 64 bits, so the question is answered by two roundings to 53 bits.
-/

namespace SearchQuery.Json

/-! ## The text of a number -/

/-- The parts of a number as they are written. -/
structure NumberText where
  integer : Text
  fraction : Option Text
  /-- Whether the exponent is negative, and its digits, if there is one. -/
  exponent : Option (Bool × Text)
  deriving Repr, DecidableEq

def readDigits (t : Text) : Reading Text :=
  match t.takeWhile Char.isDigit, t with
  | [], [] => .error .truncated
  | [], _ :: _ => .error .malformed
  | digit :: digits, _ => .ok (digit :: digits, t.dropWhile Char.isDigit)

/-- The digits before the point. A zero stands alone. -/
def readInteger (t : Text) : Reading Text :=
  match readDigits t with
  | .ok ('0' :: _ :: _, _) => .error .malformed
  | read => read

def readFraction : Text → Reading (Option Text)
  | '.' :: rest => Reading.mapValue some (readDigits rest)
  | t => .ok (none, t)

def readExponent : Text → Reading (Option (Bool × Text))
  | c :: rest =>
    if c = 'e' ∨ c = 'E' then
      match rest with
      | '-' :: rest => Reading.mapValue (fun digits => some (true, digits)) (readDigits rest)
      | '+' :: rest => Reading.mapValue (fun digits => some (false, digits)) (readDigits rest)
      | rest => Reading.mapValue (fun digits => some (false, digits)) (readDigits rest)
    else .ok (none, c :: rest)
  | [] => .ok (none, [])

/-- A number behind its sign, as it is written. -/
def readNumberText (t : Text) : Except Problem (NumberText × Text) := do
  let (integer, rest) ← readInteger t
  let (fraction, rest) ← readFraction rest
  let (exponent, rest) ← readExponent rest
  return (⟨integer, fraction, exponent⟩, rest)

/-- The text behind a number that is passed over. A number that breaks off is malformed. -/
def skipNumber (t : Text) : Except Problem Text :=
  match readNumberText t with
  | .ok (_, rest) => .ok rest
  | .error _ => .error .malformed

theorem length_of_readDigits {t rest digits : Text} (read : readDigits t = .ok (digits, rest)) :
    rest.length < t.length := by
  have whole := congrArg List.length (List.takeWhile_append_dropWhile (p := Char.isDigit) (l := t))
  unfold readDigits at read
  split at read
  · cases read
  · cases read
  · rename_i found
    simp only [Except.ok.injEq, Prod.mk.injEq] at read
    rw [List.length_append, found, read.2, List.length_cons] at whole
    omega

theorem length_of_readInteger {t rest digits : Text}
    (read : readInteger t = .ok (digits, rest)) : rest.length < t.length := by
  unfold readInteger at read
  split at read
  · cases read
  · exact length_of_readDigits read

theorem length_of_mapValue_readDigits {α : Type} {make : Text → α} {t rest : Text} {value : α}
    (read : Reading.mapValue make (readDigits t) = .ok (value, rest)) :
    rest.length < t.length := by
  obtain ⟨_, found, _⟩ := Reading.mapValue_eq_ok_iff.1 read
  exact length_of_readDigits found

theorem length_of_readFraction {t rest : Text} {digits : Option Text}
    (read : readFraction t = .ok (digits, rest)) : rest.length ≤ t.length := by
  unfold readFraction at read
  split at read
  · have := length_of_mapValue_readDigits read
    simp only [List.length_cons]
    omega
  · cases read
    exact Nat.le_refl _

theorem length_of_readExponent {t rest : Text} {exponent : Option (Bool × Text)}
    (read : readExponent t = .ok (exponent, rest)) : rest.length ≤ t.length := by
  unfold readExponent at read
  split at read
  · split at read
    · split at read <;>
        · have := length_of_mapValue_readDigits read
          simp only [List.length_cons]
          omega
    · cases read
      exact Nat.le_refl _
  · cases read
    exact Nat.le_refl _

theorem length_of_readNumberText {t rest : Text} {number : NumberText}
    (read : readNumberText t = .ok (number, rest)) : rest.length < t.length := by
  simp only [readNumberText, bind, Except.bind, pure, Except.pure] at read
  split at read
  · cases read
  · rename_i integer readInteger
    split at read
    · cases read
    · rename_i fraction readFraction
      split at read
      · cases read
      · rename_i exponent readExponent
        simp only [Except.ok.injEq, Prod.mk.injEq] at read
        have := length_of_readInteger readInteger
        have := length_of_readFraction readFraction
        have := length_of_readExponent readExponent
        rw [← read.2]
        omega

theorem length_of_skipNumber {t rest : Text} (skipped : skipNumber t = .ok rest) :
    rest.length < t.length := by
  unfold skipNumber at skipped
  split at skipped
  · rename_i read
    cases skipped
    exact length_of_readNumberText read
  · cases skipped

/-! ## The value of a number -/

def maxSignificand : Nat := Nat.pow 2 64 - 1

/-- The natural number with 53 significant bits that is nearest, of two the even one. -/
def roundToDouble (n : Nat) : Nat :=
  if n < Nat.pow 2 53 then n
  else
    let unit := Nat.pow 2 (n.log2 - 52)
    let low := n / unit * unit
    if 2 * (n - low) < unit ∨ 2 * (n - low) = unit ∧ n / unit % 2 = 0 then low else low + unit

/-- The least number that no double is near enough to: half a unit above the largest one. -/
def doubleLimit : Nat := Nat.pow 2 1024 - Nat.pow 2 970

/-- Whether a significand times a power of ten is beyond the range of a double. -/
def exceedsDouble (significand : Nat) (exponent : Int) : Bool :=
  significand ≠ 0 && 0 ≤ exponent &&
    (308 < exponent ||
      doubleLimit ≤ roundToDouble significand * roundToDouble (Nat.pow 10 exponent.toNat))

def digitValue (c : Char) : Nat := c.toNat - '0'.toNat

/-- Takes digits into a significand until the next one would not fit. Gives the significand
and the number of digits left over. -/
def takeDigits (significand : Nat) : (digits : Text) → Nat × Nat
  | [] => (significand, 0)
  | digit :: digits =>
    if 10 * significand + digitValue digit ≤ maxSignificand then
      takeDigits (10 * significand + digitValue digit) digits
    else (significand, (digit :: digits).length)

def exponentValue : Option (Bool × Text) → Int
  | none => 0
  | some (isNegative, digits) =>
    let magnitude : Int := digits.foldl (fun value digit => 10 * value + digitValue digit) (0 : Nat)
    if isNegative then -magnitude else magnitude

namespace NumberText

/-- The significand of a number and the power of ten that it is multiplied by. Digits before
the point that do not fit count in the exponent, those behind it not at all. -/
def scaled (number : NumberText) : Nat × Int :=
  let (whole, dropped) := takeDigits 0 number.integer
  let fraction := number.fraction.getD []
  let (significand, ignored) := takeDigits whole fraction
  (significand, exponentValue number.exponent + dropped - (fraction.length - ignored : Nat))

def outOfRange (number : NumberText) : Bool :=
  let (significand, exponent) := number.scaled
  exceedsDouble significand exponent

/-- The natural number of 64 bits that is written without point and exponent. -/
def natural? (number : NumberText) : Option Nat :=
  match number.fraction, number.exponent, takeDigits 0 number.integer with
  | none, none, (value, 0) => some value
  | _, _, _ => none

end NumberText

/-- The value of a number behind its sign, if it is a natural number. -/
def readNumber (isNegative : Bool) (t : Text) : Reading (Option Nat) :=
  match readNumberText t with
  | .error problem => .error problem
  | .ok (number, rest) =>
    if number.outOfRange then .error .malformed
    else if isNegative then .ok (none, rest)
    else .ok (number.natural?, rest)

end SearchQuery.Json
