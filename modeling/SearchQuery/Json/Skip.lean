import SearchQuery.Json.Number
import SearchQuery.Json.Quoted

/-! # Passing over JSON values

A value that nobody asks for is passed over, however deep it is. It has to be well-formed,
but its strings and numbers need not denote anything.
-/

namespace SearchQuery.Json

/-- What a value can be inside of. -/
inductive Bracket where
  | list
  | object
  deriving Repr, DecidableEq

/-- The character that ends it. -/
def Bracket.closing : Bracket → Char
  | .list => ']'
  | .object => '}'

/-- The text behind a string, number or word that is passed over. -/
def skipScalar : Text → Except Problem Text
  | [] => .error .truncated
  | 'n' :: rest => skipWord ['u', 'l', 'l'] rest
  | 't' :: rest => skipWord ['r', 'u', 'e'] rest
  | 'f' :: rest => skipWord ['a', 'l', 's', 'e'] rest
  | '"' :: rest => skipString rest
  | '-' :: rest => skipNumber rest
  | c :: rest => if c.isDigit then skipNumber (c :: rest) else .error .malformed

/-- The text behind the name of a member and its colon. -/
def skipName (t : Text) : Except Problem Text :=
  match skipBlanks t with
  | '"' :: rest =>
    match skipString rest with
    | .error problem => .error problem
    | .ok rest =>
      match skipBlanks rest with
      | ':' :: rest => .ok rest
      | [] => .error .truncated
      | _ => .error .malformed
  | [] => .error .truncated
  | _ => .error .malformed

theorem length_of_skipScalar {t rest : Text} (skipped : skipScalar t = .ok rest) :
    rest.length < t.length := by
  unfold skipScalar at skipped
  split at skipped
  · cases skipped
  · exact Nat.lt_succ_of_le (length_of_skipWord skipped)
  · exact Nat.lt_succ_of_le (length_of_skipWord skipped)
  · exact Nat.lt_succ_of_le (length_of_skipWord skipped)
  · exact Nat.lt_succ_of_lt (length_of_skipString skipped)
  · exact Nat.lt_succ_of_lt (length_of_skipNumber skipped)
  · split at skipped
    · exact length_of_skipNumber skipped
    · cases skipped

theorem length_of_skipName {t rest : Text} (skipped : skipName t = .ok rest) :
    rest.length < t.length := by
  unfold skipName at skipped
  split at skipped
  · rename_i atQuote
    have := length_lt_of_skipBlanks atQuote
    split at skipped
    · cases skipped
    · rename_i inString
      have := length_of_skipString inString
      split at skipped
      · rename_i atColon
        have := length_lt_of_skipBlanks atColon
        cases skipped
        omega
      · cases skipped
      · cases skipped
  · cases skipped
  · cases skipped

mutual

/-- The text behind a value, and behind the brackets that the value is inside of, the
innermost first. -/
def skipValue (enclosing : List Bracket) (t : Text) : Except Problem Text :=
  match _first : skipBlanks t with
  | '[' :: rest =>
    match _second : skipBlanks rest with
    | ']' :: after => skipMore enclosing after
    | [] => .error .truncated
    | _ => skipValue (.list :: enclosing) rest
  | '{' :: rest =>
    match _second : skipBlanks rest with
    | '}' :: after => skipMore enclosing after
    | [] => .error .truncated
    | _ =>
      match _name : skipName rest with
      | .error problem => .error problem
      | .ok value => skipValue (.object :: enclosing) value
  | scalar =>
    match _scalar : skipScalar scalar with
    | .error problem => .error problem
    | .ok after => skipMore enclosing after
termination_by t.length
decreasing_by
  · have := length_lt_of_skipBlanks _first
    have := length_lt_of_skipBlanks _second
    omega
  · exact length_lt_of_skipBlanks _first
  · have := length_lt_of_skipBlanks _first
    have := length_lt_of_skipBlanks _second
    omega
  · have := length_lt_of_skipBlanks _first
    have := length_of_skipName _name
    omega
  · have bound := length_skipBlanks_le t
    rw [_first] at bound
    exact Nat.lt_of_lt_of_le (length_of_skipScalar _scalar) bound

/-- The text behind the brackets that a value is inside of, from the end of the value on. -/
def skipMore (enclosing : List Bracket) (t : Text) : Except Problem Text :=
  match enclosing with
  | [] => .ok t
  | bracket :: outer =>
    match _next : skipBlanks t with
    | [] => .error .truncated
    | c :: rest =>
      if c = bracket.closing then skipMore outer rest
      else if c = ',' then
        match bracket with
        | .list => skipValue (.list :: outer) rest
        | .object =>
          match _name : skipName rest with
          | .error problem => .error problem
          | .ok value => skipValue (.object :: outer) value
      else .error .malformed
termination_by t.length
decreasing_by
  · exact length_lt_of_skipBlanks _next
  · exact length_lt_of_skipBlanks _next
  · have := length_lt_of_skipBlanks _next
    have := length_of_skipName _name
    omega

end

mutual

theorem length_of_skipValue {enclosing : List Bracket} {t rest : Text}
    (skipped : skipValue enclosing t = .ok rest) : rest.length < t.length := by
  unfold skipValue at skipped
  split at skipped
  · rename_i inner atBracket
    have := length_lt_of_skipBlanks atBracket
    split at skipped
    · rename_i after atEnd
      have := length_lt_of_skipBlanks atEnd
      have := length_of_skipMore skipped
      omega
    · cases skipped
    · have := length_of_skipValue skipped
      omega
  · rename_i inner atBracket
    have := length_lt_of_skipBlanks atBracket
    split at skipped
    · rename_i after atEnd
      have := length_lt_of_skipBlanks atEnd
      have := length_of_skipMore skipped
      omega
    · cases skipped
    · split at skipped
      · cases skipped
      · rename_i value named
        have := length_of_skipName named
        have := length_of_skipValue skipped
        omega
  · have bound := length_skipBlanks_le t
    split at skipped
    · cases skipped
    · rename_i after inScalar
      have := length_of_skipScalar inScalar
      have := length_of_skipMore skipped
      omega
termination_by t.length

theorem length_of_skipMore {enclosing : List Bracket} {t rest : Text}
    (skipped : skipMore enclosing t = .ok rest) : rest.length ≤ t.length := by
  unfold skipMore at skipped
  split at skipped
  · cases skipped
    exact Nat.le_refl _
  · split at skipped
    · cases skipped
    · rename_i atNext
      have := length_lt_of_skipBlanks atNext
      split at skipped
      · have := length_of_skipMore skipped
        omega
      · split at skipped
        · split at skipped
          · have := length_of_skipValue skipped
            omega
          · split at skipped
            · cases skipped
            · rename_i value named
              have := length_of_skipName named
              have := length_of_skipValue skipped
              omega
        · cases skipped
termination_by t.length

end

end SearchQuery.Json
