import SearchQuery.Text

/-! # Characters by code point

Escapes name a character by the hexadecimal digits of its code point. Digits of either
case are read; surrogate code points and numbers above the last code point name nothing.
-/

namespace SearchQuery.Text

/-- The number that a hexadecimal digit stands for. -/
def hexDigit? (c : Char) : Option Nat :=
  if '0' ≤ c ∧ c ≤ '9' then some (c.toNat - '0'.toNat)
  else if 'a' ≤ c ∧ c ≤ 'f' then some (c.toNat - 'a'.toNat + 10)
  else if 'A' ≤ c ∧ c ≤ 'F' then some (c.toNat - 'A'.toNat + 10)
  else none

/-- The number written by hexadecimal digits, zero for no digits. -/
def hexNumber? (digits : Text) : Option Nat :=
  digits.foldlM (fun number c => (hexDigit? c).map (16 * number + ·)) 0

/-- The character with the given code point. -/
def charOfCode? (code : Nat) : Option Char :=
  if code.isValidChar then some (Char.ofNat code) else none

/-- The character whose code point the hexadecimal digits write. -/
def charOfHex? (digits : Text) : Option Char := (hexNumber? digits).bind charOfCode?

/-- The lower-case hexadecimal digit for a number below sixteen. -/
def hexDigit (number : Nat) : Char := Nat.digitChar number

end SearchQuery.Text
