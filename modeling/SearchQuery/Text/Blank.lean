import SearchQuery.Text

/-! # Blank characters

The characters that trimming removes: those with the Unicode property `White_Space`.
-/

namespace SearchQuery.Text

/-- The ranges of code points that are blank, in ascending order. -/
def blankRanges : List (Nat × Nat) :=
  [(0x09, 0x0D), (0x20, 0x20), (0x85, 0x85), (0xA0, 0xA0), (0x1680, 0x1680),
   (0x2000, 0x200A), (0x2028, 0x2029), (0x202F, 0x202F), (0x205F, 0x205F), (0x3000, 0x3000)]

/-- Whether trimming removes the character at an end of a text. -/
def isBlank (c : Char) : Bool :=
  blankRanges.any fun range => range.1 ≤ c.toNat && c.toNat ≤ range.2

/-- A text without the blanks before its first other character. -/
def trimLeft (t : Text) : Text := t.dropWhile isBlank

/-- A text without the blanks after its last other character. -/
def trimRight (t : Text) : Text := (t.reverse.dropWhile isBlank).reverse

/-- A text without blanks at either end. -/
def trim (t : Text) : Text := trimRight (trimLeft t)

end SearchQuery.Text
