import SearchQuery.Json.Skip

/-! # Reading JSON for what it is expected to hold

Lists and objects are read part by part, and a value of another type than the expected one
is a problem of its own. A string or number that is not expected is still read to its end
first, since what is wrong inside it comes before what is wrong with it.
-/

namespace SearchQuery.Json

/-- The problem with a value that is not of the expected type and begins the text. -/
def wrongType : Text → Problem
  | [] => .truncated
  | '[' :: _ => .mistyped
  | '{' :: _ => .mistyped
  | '"' :: rest => problemOf (readString rest)
  | '-' :: rest => problemOf (readNumber true rest)
  | 'n' :: rest => problemOf (skipWord ['u', 'l', 'l'] rest)
  | 't' :: rest => problemOf (skipWord ['r', 'u', 'e'] rest)
  | 'f' :: rest => problemOf (skipWord ['a', 'l', 's', 'e'] rest)
  | c :: rest => if c.isDigit then problemOf (readNumber false (c :: rest)) else .malformed
where
  /-- The problem inside a value, or that of its type. -/
  problemOf {α : Type} : Except Problem α → Problem
    | .error problem => problem
    | .ok _ => .mistyped

def readText (t : Text) : Reading Text :=
  match skipBlanks t with
  | '"' :: rest => readString rest
  | other => .error (wrongType other)

/-- A natural number of 64 bits, as a value. -/
def readNatural (t : Text) : Reading Nat :=
  match skipBlanks t with
  | [] => .error .truncated
  | c :: rest =>
    if c.isDigit then
      match readNumber false (c :: rest) with
      | .ok (some number, rest) => .ok (number, rest)
      | .ok (none, _) => .error .mistyped
      | .error problem => .error problem
    else .error (wrongType (c :: rest))

/-- Looks for the next item of a list: whether there is one, and the text from it on or
behind the closing bracket. -/
def nextItem (isFirst : Bool) (t : Text) : Reading Bool :=
  match isFirst, skipBlanks t with
  | _, [] => .error .truncated
  | _, ']' :: rest => .ok (false, rest)
  | true, rest => .ok (true, rest)
  | false, ',' :: rest =>
    match skipBlanks rest with
    | [] => .error .truncated
    | ']' :: _ => .error .malformed
    | item => .ok (true, item)
  | false, _ => .error .malformed

/-- Reads the name of the next member of an object, if there is one: the text behind the name
or behind the closing bracket. -/
def nextName (isFirst : Bool) (t : Text) : Reading (Option Text) :=
  match isFirst, skipBlanks t with
  | _, [] => .error .truncated
  | _, '}' :: rest => .ok (none, rest)
  | true, '"' :: rest => named rest
  | false, ',' :: rest =>
    match skipBlanks rest with
    | [] => .error .truncated
    | '"' :: rest => named rest
    | _ => .error .malformed
  | _, _ => .error .malformed
where
  /-- The name whose opening quote has been read. -/
  named (rest : Text) : Reading (Option Text) :=
    match readString rest with
    | .error problem => .error problem
    | .ok (name, rest) => .ok (some name, rest)

def skipColon (t : Text) : Except Problem Text :=
  match skipBlanks t with
  | ':' :: rest => .ok rest
  | [] => .error .truncated
  | _ => .error .malformed

theorem length_of_readText {t rest text : Text} (read : readText t = .ok (text, rest)) :
    rest.length < t.length := by
  unfold readText at read
  split at read
  · rename_i atQuote
    exact Nat.lt_trans (length_of_readString read) (length_lt_of_skipBlanks atQuote)
  · cases read

theorem length_of_nextItem {isFirst : Bool} {t rest : Text}
    (read : nextItem isFirst t = .ok (true, rest)) : rest.length ≤ t.length := by
  unfold nextItem at read
  split at read
  · cases read
  · cases read
  · cases read
    exact length_skipBlanks_le t
  · rename_i atComma
    have := length_lt_of_skipBlanks atComma
    split at read
    · cases read
    · cases read
    · cases read
      rename_i behind _ _ _
      have := length_skipBlanks_le behind
      omega
  · cases read

theorem length_of_nextItem_end {isFirst : Bool} {t rest : Text}
    (read : nextItem isFirst t = .ok (false, rest)) : rest.length < t.length := by
  unfold nextItem at read
  split at read
  · cases read
  · rename_i atEnd
    cases read
    exact length_lt_of_skipBlanks atEnd
  · cases read
  · split at read <;> cases read
  · cases read

theorem length_of_nextName {isFirst : Bool} {t rest : Text} {name : Option Text}
    (read : nextName isFirst t = .ok (name, rest)) : rest.length < t.length := by
  have ofNamed : ∀ {t rest : Text} {name : Option Text}, nextName.named t = .ok (name, rest) →
      rest.length < t.length := by
    intro t rest name named
    unfold nextName.named at named
    split at named
    · cases named
    · rename_i inString
      cases named
      exact length_of_readString inString
  unfold nextName at read
  split at read
  · cases read
  · rename_i atEnd
    cases read
    exact length_lt_of_skipBlanks atEnd
  · rename_i atQuote
    exact Nat.lt_trans (ofNamed read) (length_lt_of_skipBlanks atQuote)
  · rename_i atComma
    split at read
    · cases read
    · rename_i atQuote
      exact Nat.lt_trans (ofNamed read)
        (Nat.lt_trans (length_lt_of_skipBlanks atQuote) (length_lt_of_skipBlanks atComma))
    · cases read
  · cases read

theorem length_of_skipColon {t rest : Text} (skipped : skipColon t = .ok rest) :
    rest.length < t.length := by
  unfold skipColon at skipped
  split at skipped
  · rename_i atColon
    cases skipped
    exact length_lt_of_skipBlanks atColon
  · cases skipped
  · cases skipped

theorem length_of_readNumber {isNegative : Bool} {t rest : Text} {number : Option Nat}
    (read : readNumber isNegative t = .ok (number, rest)) : rest.length < t.length := by
  unfold readNumber at read
  split at read
  · cases read
  · rename_i numberText after inNumber
    have := length_of_readNumberText inNumber
    split at read
    · cases read
    · split at read <;>
        · simp only [Except.ok.injEq, Prod.mk.injEq] at read
          rwa [← read.2]

theorem length_of_readNatural {t rest : Text} {number : Nat}
    (read : readNatural t = .ok (number, rest)) : rest.length < t.length := by
  unfold readNatural at read
  split at read
  · cases read
  · rename_i c others atValue
    have bound := length_skipBlanks_le t
    rw [atValue] at bound
    split at read
    · split at read
      · rename_i inNumber
        cases read
        exact Nat.lt_of_lt_of_le (length_of_readNumber inNumber) bound
      · cases read
      · cases read
    · cases read

end SearchQuery.Json
