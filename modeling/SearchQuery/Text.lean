/-! # Text and byte positions

A text is a list of characters, so that reading it is recursion on the list. Positions
in a text are counted in bytes of its UTF-8 form, because that is how offsets are
reported; `slice?` is the one place that turns such positions back into characters.
-/

namespace SearchQuery

/-- A text, first character first. -/
abbrev Text := List Char

namespace Text

/-- The characters of a string. A text that the program writes or compares with is given as a
string; proofs treat it as a closed constant unless they ask for its characters, since
unfolding a string means decoding its bytes. -/
@[irreducible] def ofString (string : String) : Text := string.toList

theorem ofString_eq (string : String) : ofString string = string.toList := by rw [ofString]

@[simp] theorem ofString_inj (s t : String) : ofString s = ofString t ↔ s = t := by
  simp [ofString_eq, String.toList_inj]

def byteSize : Text → Nat
  | [] => 0
  | c :: rest => c.utf8Size + byteSize rest

@[simp] theorem byteSize_nil : byteSize [] = 0 := rfl

@[simp] theorem byteSize_cons (c : Char) (rest : Text) :
    byteSize (c :: rest) = c.utf8Size + byteSize rest := rfl

@[simp] theorem byteSize_append (s t : Text) : byteSize (s ++ t) = byteSize s + byteSize t := by
  induction s with
  | nil => simp
  | cons c rest ih => simp [ih, Nat.add_assoc]

@[simp] theorem byteSize_reverse (t : Text) : byteSize t.reverse = byteSize t := by
  induction t with
  | nil => rfl
  | cons c rest ih => simp [ih, Nat.add_comm]

/-- Cuts a text after exactly `size` bytes. There is no cut beyond the end or inside a
character. -/
def splitBytes? : (size : Nat) → Text → Option (Text × Text)
  | 0, t => some ([], t)
  | _ + 1, [] => none
  | size + 1, c :: rest =>
    if c.utf8Size ≤ size + 1 then
      (splitBytes? (size + 1 - c.utf8Size) rest).map fun cut => (c :: cut.1, cut.2)
    else none

/-- Cutting after the bytes of a leading part gives that part and what follows it. -/
theorem splitBytes?_append (s t : Text) : splitBytes? (byteSize s) (s ++ t) = some (s, t) := by
  induction s with
  | nil => simp [splitBytes?]
  | cons c rest ih =>
    have positive := c.utf8Size_pos
    obtain ⟨size, hsize⟩ : ∃ size, byteSize (c :: rest) = size + 1 :=
      ⟨byteSize (c :: rest) - 1, by simp only [byteSize_cons]; omega⟩
    have remaining : size + 1 - c.utf8Size = byteSize rest := by
      simp only [byteSize_cons] at hsize; omega
    have fits : c.utf8Size ≤ size + 1 := by simp only [byteSize_cons] at hsize; omega
    simp [hsize, splitBytes?, fits, remaining, ih]

/-- The characters between two byte positions. There is no slice when the positions are
out of order, beyond the end, or inside a character. -/
def slice? (first last : Nat) (t : Text) : Option Text :=
  if first ≤ last then
    (splitBytes? first t).bind fun cut => (splitBytes? (last - first) cut.2).map Prod.fst
  else none

/-- A slice is the part of the text that lies between what is before and after it. -/
theorem slice?_append (before middle after : Text) :
    slice? (byteSize before) (byteSize before + byteSize middle) (before ++ middle ++ after) =
      some middle := by
  simp [slice?, splitBytes?_append, List.append_assoc]

/-- The decimal digits of a number, without leading zeros. -/
def ofNat (n : Nat) : Text := Nat.toDigits 10 n

/-- Words with a single space between neighbours. -/
def joinWords (words : List Text) : Text := List.intercalate [' '] words

end Text

end SearchQuery
