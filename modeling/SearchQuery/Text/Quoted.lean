import SearchQuery.Text.Hex

/-! # Quoted literals

A quoted literal stands between two equal quote characters, which may be `"` or `'`.
Inside, a backslash begins an escape and the quote character must be escaped; the other
kind of quote may stand by itself. A text that breaks any of these rules is no literal at
all, and callers then take it as it is written.
-/

namespace SearchQuery.Text

/-- Whether the character can open a quoted literal. -/
def isQuote (c : Char) : Bool := c == '"' || c == '\''

/-- Reads the escape after a backslash: the character that it denotes and the text behind
it. -/
def escape? : Text → Option (Char × Text)
  | 'n' :: rest => some ('\n', rest)
  | 't' :: rest => some ('\t', rest)
  | 'r' :: rest => some ('\r', rest)
  | '0' :: rest => some ('\x00', rest)
  | '\\' :: rest => some ('\\', rest)
  | '"' :: rest => some ('"', rest)
  | '\'' :: rest => some ('\'', rest)
  | 'x' :: a :: b :: rest => (charOfHex? [a, b]).map (·, rest)
  | 'u' :: rest =>
    match rest with
    | '{' :: inner =>
      match inner.takeWhile (· != '}'), inner.dropWhile (· != '}') with
      | digit :: digits, _ :: after => (charOfHex? (digit :: digits)).map (·, after)
      | _, _ => none
    | a :: b :: c :: d :: after => (charOfHex? [a, b, c, d]).map (·, after)
    | _ => none
  | _ => none

/-- An escape takes at least one character, so reading a literal comes to an end. -/
theorem length_lt_of_escape? {t rest : Text} {c : Char} (read : escape? t = some (c, rest)) :
    rest.length < t.length := by
  unfold escape? at read
  split at read
  case h_9 tail =>
    split at read
    · rename_i inner
      split at read
      · rename_i digit digits closing after _ atClosing
        have shorter := (List.dropWhile_suffix (l := inner) (· != '}')).length_le
        rw [atClosing] at shorter
        simp only [Option.map_eq_some_iff, Prod.mk.injEq] at read
        obtain ⟨_, _, _, rfl⟩ := read
        simp only [List.length_cons] at shorter ⊢
        omega
      · cases read
    · simp only [Option.map_eq_some_iff, Prod.mk.injEq] at read
      obtain ⟨_, _, _, rfl⟩ := read
      simp only [List.length_cons]
      omega
    · cases read
  case h_10 => cases read
  all_goals
    simp only [Option.map_eq_some_iff, Option.some.injEq, Prod.mk.injEq] at read
    first
      | (obtain ⟨_, rfl⟩ := read; simp)
      | (obtain ⟨_, _, _, rfl⟩ := read; simp only [List.length_cons]; omega)

/-- The text that stands for the inside of a literal with the given quote character. -/
def decode? (quote : Char) : Text → Option Text
  | [] => some []
  | c :: rest =>
    if c = quote then none
    else if c = '\\' then
      match _read : escape? rest with
      | some (denoted, after) => (decode? quote after).map (denoted :: ·)
      | none => none
    else (decode? quote rest).map (c :: ·)
termination_by t => t.length
decreasing_by
  · have := length_lt_of_escape? _read
    simp only [List.length_cons]
    omega
  · simp

/-- The text that a quoted literal stands for, if the whole text is one. -/
def unquote? : Text → Option Text
  | [] => none
  | quote :: body =>
    if isQuote quote ∧ body.getLast? = some quote then decode? quote body.dropLast else none

end SearchQuery.Text
