import SearchQuery.Text.Blank

/-! # Reading a text with one character of look-back

A cursor stands between two characters of a text. It remembers how far the text has been
committed, and it can give back the character it read last. The parts of the text before,
since and after the last commit are kept apart, so no position can lie inside a character;
byte positions are measured when they are asked for.

Committing does not forget the last character. Giving it back right after a commit puts
the cursor before the commit, and then there is no span until that character is read
again.
-/

namespace SearchQuery

/-- A place in a text, with the span read since the last commit. -/
structure Cursor where
  /-- The text before the commit, or before the cursor if that comes first, last character
  first. -/
  committed : Text
  /-- The text read since the commit, last character first. There is none while the cursor
  is before the commit. -/
  span? : Option Text
  /-- The text not yet read. -/
  rest : Text
  /-- Whether the character read last can be given back. -/
  canBackUp : Bool
  deriving Repr, DecidableEq

namespace Cursor

def ofText (text : Text) : Cursor where
  committed := []
  span? := some []
  rest := text
  canBackUp := false

def text (cursor : Cursor) : Text :=
  cursor.committed.reverse ++ (cursor.span?.getD []).reverse ++ cursor.rest

def pos (cursor : Cursor) : Nat :=
  Text.byteSize cursor.committed + Text.byteSize (cursor.span?.getD [])

/-- The byte position of the last commit. A cursor before the commit is one character before
it. -/
def start (cursor : Cursor) : Nat :=
  match cursor.span? with
  | some _ => Text.byteSize cursor.committed
  | none => Text.byteSize cursor.committed + Text.byteSize (cursor.rest.take 1)

/-- Reads a character. At the end of the text nothing is read, and nothing can be given
back. -/
def next (cursor : Cursor) : Option Char × Cursor :=
  match cursor.rest, cursor.span? with
  | [], _ => (none, { cursor with canBackUp := false })
  | c :: rest, some span =>
    (some c, { cursor with span? := some (c :: span), rest, canBackUp := true })
  | c :: rest, none =>
    (some c, { committed := c :: cursor.committed, span? := some [], rest, canBackUp := true })

/-- Gives back the character that was read last, if that has not been done yet, however much
has been committed since it was read. -/
def backUp (cursor : Cursor) : Cursor :=
  match cursor.canBackUp, cursor.span?, cursor.committed with
  | true, some (c :: span), _ =>
    { cursor with span? := some span, rest := c :: cursor.rest, canBackUp := false }
  | true, some [], c :: committed =>
    { committed, span? := none, rest := c :: cursor.rest, canBackUp := false }
  | _, _, _ => { cursor with canBackUp := false }

/-- Looks at the next character without moving. Nothing can be given back afterwards. -/
def peek (cursor : Cursor) : Option Char × Cursor :=
  (cursor.next.1, cursor.next.2.backUp)

/-- Commits everything up to the cursor. -/
def commit (cursor : Cursor) : Cursor :=
  { cursor with
    committed := cursor.span?.getD [] ++ cursor.committed, span? := some [] }

/-- Whether nothing has been read since the last commit. -/
def atSpanStart (cursor : Cursor) : Bool := cursor.span? == some []

def previous? (cursor : Cursor) : Option Char :=
  match cursor.span? with
  | some (c :: _) => some c
  | _ => cursor.committed.head?

/-- The text since the last commit, if the cursor is not before it. -/
def spanText? (cursor : Cursor) : Option Text := cursor.span?.map List.reverse

/-- The text since the last commit without blanks at its ends, if the cursor is not before
it. -/
def value? (cursor : Cursor) : Option Text := cursor.spanText?.map Text.trim

/-- The text between two byte positions, if they are in order and between characters. -/
def slice? (cursor : Cursor) (first last : Nat) : Option Text :=
  Text.slice? first last cursor.text

@[simp] theorem text_ofText (text : Text) : (ofText text).text = text := rfl

@[simp] theorem text_next (cursor : Cursor) : cursor.next.2.text = cursor.text := by
  obtain ⟨committed, span, rest, canBackUp⟩ := cursor
  cases rest <;> cases span <;> simp [next, text]

@[simp] theorem text_backUp (cursor : Cursor) : cursor.backUp.text = cursor.text := by
  unfold backUp
  split <;> simp_all [text]

@[simp] theorem text_commit (cursor : Cursor) : cursor.commit.text = cursor.text := by
  obtain ⟨committed, span, rest, canBackUp⟩ := cursor
  cases span <;> simp [commit, text]

/-- Giving back the character that was just read restores the place. -/
theorem backUp_next (cursor : Cursor) {c : Char} {after : Cursor}
    (read : cursor.next = (some c, after)) : after.backUp = { cursor with canBackUp := false } := by
  obtain ⟨committed, span, rest, canBackUp⟩ := cursor
  cases rest with
  | nil => simp [next] at read
  | cons first others =>
    cases span <;>
      · simp only [next, Prod.mk.injEq, Option.some.injEq] at read
        obtain ⟨_, rfl⟩ := read
        rfl

/-- Looking at a character leaves the place as it is. -/
theorem peek_eq (cursor : Cursor) :
    cursor.peek = (cursor.rest.head?, { cursor with canBackUp := false }) := by
  obtain ⟨committed, span, rest, canBackUp⟩ := cursor
  cases rest with
  | nil =>
    cases span <;> rfl
  | cons first others => cases span <;> rfl

end Cursor

end SearchQuery
