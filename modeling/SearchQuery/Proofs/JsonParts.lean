import SearchQuery.Json.Parts

/-! # Parts of JSON texts

Blanks may stand before every part of a JSON text, and the parts of a list or an object differ only
in that a comma stands before all but the first. These are the facts about single parts that every
account of what is read from a text is made of.
-/

namespace SearchQuery.Json

/-! ## Blanks -/

/-- Whether a text is made of blanks. -/
def AllBlank (t : Text) : Prop := ∀ c ∈ t, isBlank c

instance (t : Text) : Decidable (AllBlank t) := List.decidableBAll (fun c => isBlank c) t

theorem allBlank_nil : AllBlank [] := nofun

theorem AllBlank.append {blanks more : Text} (blank : AllBlank blanks) (also : AllBlank more) :
    AllBlank (blanks ++ more) := List.forall_mem_append.2 ⟨blank, also⟩

theorem skipBlanks_cons {c : Char} (printable : isBlank c = false) (t : Text) :
    skipBlanks (c :: t) = c :: t := by
  rw [skipBlanks, List.dropWhile_cons, printable]
  rfl

theorem skipBlanks_append {blanks : Text} (blank : AllBlank blanks) (t : Text) :
    skipBlanks (blanks ++ t) = skipBlanks t := by
  rw [skipBlanks, List.dropWhile_append_of_pos blank]
  rfl

theorem skipBlanks_append_cons {blanks : Text} {c : Char} (blank : AllBlank blanks)
    (printable : isBlank c = false) (t : Text) : skipBlanks (blanks ++ c :: t) = c :: t :=
  (skipBlanks_append blank _).trans (skipBlanks_cons printable t)

/-! ## Strings -/

theorem readString_cons {c : Char} {t : Text} (notQuote : c ≠ '"') (notEscape : c ≠ '\\')
    (printable : ¬ c.toNat < 0x20) :
    readString (c :: t) = Reading.mapValue (c :: ·) (readString t) := by
  rw [readString]
  simp only [notQuote, notEscape, printable, ↓reduceIte]

theorem readString_escape {c : Char} {t rest : Text} (escape : readEscape t = .ok (c, rest)) :
    readString ('\\' :: t) = Reading.mapValue (c :: ·) (readString rest) := by
  rw [readString]
  simp only [Char.reduceEq, ↓reduceIte]
  split <;> simp_all

theorem readString_quote (rest : Text) : readString ('"' :: rest) = .ok ([], rest) := by
  rw [readString]
  rfl

/-! ## Lists and objects -/

/-- What stands before an item or a member: a comma, but not before the first. -/
def separator (isFirst : Bool) : Text := if isFirst then [] else [',']

section

variable {isFirst : Bool} {blanks t rest : Text}

theorem nextItem_blanks (blank : AllBlank blanks) (t : Text) :
    nextItem isFirst (blanks ++ t) = nextItem isFirst t := by
  unfold nextItem
  rw [skipBlanks_append blank]

theorem nextName_blanks (blank : AllBlank blanks) (t : Text) :
    nextName isFirst (blanks ++ t) = nextName isFirst t := by
  unfold nextName
  rw [skipBlanks_append blank]

theorem nextItem_end (written : skipBlanks t = ']' :: rest) :
    nextItem isFirst t = .ok (false, rest) := by
  unfold nextItem
  rw [written]
  rfl

theorem nextName_end (written : skipBlanks t = '}' :: rest) :
    nextName isFirst t = .ok (none, rest) := by
  unfold nextName
  rw [written]
  rfl

theorem nextItem_separator {c : Char} (written : skipBlanks t = c :: rest) (isItem : c ≠ ']') :
    nextItem isFirst (separator isFirst ++ t) = .ok (true, c :: rest) := by
  unfold nextItem
  cases isFirst with
  | true => simp [separator, written, isItem]
  | false =>
      have atComma : skipBlanks (separator false ++ t) = ',' :: t := skipBlanks_cons rfl t
      simp [atComma, written, isItem]

theorem nextName_separator {inner name : Text} (written : skipBlanks t = '"' :: inner)
    (read : readString inner = .ok (name, rest)) :
    nextName isFirst (separator isFirst ++ t) = .ok (some name, rest) := by
  unfold nextName
  cases isFirst with
  | true => simp [separator, written, nextName.named, read]
  | false =>
      have atComma : skipBlanks (separator false ++ t) = ',' :: t := skipBlanks_cons rfl t
      simp [atComma, written, nextName.named, read]

theorem skipColon_of_colon (written : skipBlanks t = ':' :: rest) : skipColon t = .ok rest := by
  rw [skipColon, written]
  rfl

end

end SearchQuery.Json
