import SearchQuery.Json.Basic
import SearchQuery.Text.Hex

/-! # Strings of JSON

Strings are read in two ways. A string whose text matters must denote one; a string that is
passed over only has to be written like one, and may pair its surrogates as it likes.
-/

namespace SearchQuery.Json

/-- Four hexadecimal digits. The text counts as too short for them by its bytes, so a wide
character among the last ones is malformed and not the end of the text. -/
def readHex (t : Text) : Reading Nat :=
  match t with
  | a :: b :: c :: d :: rest =>
    match Text.hexNumber? [a, b, c, d] with
    | some code => .ok (code, rest)
    | none => .error .malformed
  | short => if Text.byteSize short < 4 then .error .truncated else .error .malformed

def simpleEscape? : Char → Option Char
  | '"' => some '"'
  | '\\' => some '\\'
  | '/' => some '/'
  | 'b' => some '\x08'
  | 'f' => some '\x0c'
  | 'n' => some '\n'
  | 'r' => some '\r'
  | 't' => some '\t'
  | _ => none

def pairedChar (leading trailing : Nat) : Char :=
  Char.ofNat (0x10000 + (leading - 0xD800) * 0x400 + (trailing - 0xDC00))

/-- The character behind `\u`. A leading surrogate needs a trailing one in an escape of its
own right behind it. -/
def readCodeUnits (t : Text) : Reading Char :=
  match readHex t with
  | .error problem => .error problem
  | .ok (leading, rest) =>
    if 0xDC00 ≤ leading ∧ leading ≤ 0xDFFF then .error .malformed
    else if leading < 0xD800 ∨ 0xDBFF < leading then .ok (Char.ofNat leading, rest)
    else
      match rest with
      | [] => .error .truncated
      | ['\\'] => .error .truncated
      | '\\' :: 'u' :: rest =>
        match readHex rest with
        | .error problem => .error problem
        | .ok (trailing, rest) =>
          if 0xDC00 ≤ trailing ∧ trailing ≤ 0xDFFF then .ok (pairedChar leading trailing, rest)
          else .error .malformed
      | _ => .error .malformed

def readEscape : Text → Reading Char
  | [] => .error .truncated
  | 'u' :: rest => readCodeUnits rest
  | c :: rest =>
    match simpleEscape? c with
    | some denoted => .ok (denoted, rest)
    | none => .error .malformed

/-- The text behind an escape that is passed over. -/
def skipEscape : Text → Except Problem Text
  | [] => .error .truncated
  | 'u' :: rest => (readHex rest).map Prod.snd
  | c :: rest => if (simpleEscape? c).isSome then .ok rest else .error .malformed

theorem length_of_readHex {t rest : Text} {code : Nat} (read : readHex t = .ok (code, rest)) :
    rest.length < t.length := by
  unfold readHex at read
  split at read
  · split at read
    · cases read
      simp only [List.length_cons]
      omega
    · cases read
  · split at read <;> cases read

theorem length_of_readCodeUnits {t rest : Text} {c : Char}
    (read : readCodeUnits t = .ok (c, rest)) : rest.length < t.length := by
  unfold readCodeUnits at read
  split at read
  · cases read
  · rename_i leading after readLeading
    have shorter := length_of_readHex readLeading
    split at read
    · cases read
    · split at read
      · simp only [Except.ok.injEq, Prod.mk.injEq] at read
        rw [← read.2]
        exact shorter
      · split at read
        · cases read
        · cases read
        · split at read
          · cases read
          · rename_i trailing last readTrailing
            have shorterStill := length_of_readHex readTrailing
            split at read
            · simp only [Except.ok.injEq, Prod.mk.injEq] at read
              rw [← read.2]
              simp only [List.length_cons] at shorter
              omega
            · cases read
        · cases read

theorem length_of_readEscape {t rest : Text} {c : Char} (read : readEscape t = .ok (c, rest)) :
    rest.length < t.length := by
  unfold readEscape at read
  split at read
  · cases read
  · have := length_of_readCodeUnits read
    simp only [List.length_cons]
    omega
  · split at read
    · cases read
      simp
    · cases read

theorem length_of_skipEscape {t rest : Text} (skipped : skipEscape t = .ok rest) :
    rest.length < t.length := by
  unfold skipEscape at skipped
  split at skipped
  · cases skipped
  · rename_i tail
    cases read : readHex tail with
    | error problem => simp [read, Except.map] at skipped
    | ok found =>
      obtain ⟨code, after⟩ := found
      simp only [read, Except.map, Except.ok.injEq] at skipped
      have := length_of_readHex read
      simp only [List.length_cons, ← skipped]
      omega
  · split at skipped
    · cases skipped
      simp
    · cases skipped

/-- The text of a string whose opening quote has been read. -/
def readString : Text → Reading Text
  | [] => .error .truncated
  | c :: rest =>
    if c = '"' then .ok ([], rest)
    else if c = '\\' then
      match _read : readEscape rest with
      | .error problem => .error problem
      | .ok (denoted, rest) =>
        Reading.mapValue (denoted :: ·) (readString rest)
    else if c.toNat < 0x20 then .error .malformed
    else Reading.mapValue (c :: ·) (readString rest)
termination_by t => t.length
decreasing_by
  · have := length_of_readEscape _read
    simp only [List.length_cons]
    omega
  · simp

/-- The text behind a string that is passed over and whose opening quote has been read. -/
def skipString : Text → Except Problem Text
  | [] => .error .truncated
  | c :: rest =>
    if c = '"' then .ok rest
    else if c = '\\' then
      match _skipped : skipEscape rest with
      | .error problem => .error problem
      | .ok rest => skipString rest
    else if c.toNat < 0x20 then .error .malformed
    else skipString rest
termination_by t => t.length
decreasing_by
  · have := length_of_skipEscape _skipped
    simp only [List.length_cons]
    omega
  · simp

theorem length_of_readString {t rest text : Text} (read : readString t = .ok (text, rest)) :
    rest.length < t.length := by
  fun_induction readString t generalizing text rest with
  | case1 | case3 | case5 => cases read
  | case2 =>
    cases read
    simp
  | case4 others denoted after readEscape _ ih =>
    obtain ⟨_, inner, _⟩ := Reading.mapValue_eq_ok_iff.1 read
    have := length_of_readEscape readEscape
    have := ih inner
    simp only [List.length_cons]
    omega
  | case6 c others _ _ _ ih =>
    obtain ⟨_, inner, _⟩ := Reading.mapValue_eq_ok_iff.1 read
    exact Nat.lt_succ_of_lt (ih inner)

theorem length_of_skipString {t rest : Text} (skipped : skipString t = .ok rest) :
    rest.length < t.length := by
  fun_induction skipString t with
  | case1 | case3 | case5 => cases skipped
  | case2 =>
    cases skipped
    simp
  | case4 others after skippedEscape _ ih =>
    have := length_of_skipEscape skippedEscape
    have := ih skipped
    simp only [List.length_cons]
    omega
  | case6 c others _ _ _ ih => exact Nat.lt_succ_of_lt (ih skipped)

end SearchQuery.Json
