import SearchQuery.Document
import SearchQuery.Proofs.JsonScalars

/-! # Documents read back

A reader of the part of JSON that documents are written in. It keeps the lists and objects that it
is inside of, and skips blanks wherever JSON allows them, so it knows nothing of layouts. What is
written in either layout is read back as it was: an opening bracket adds a frame, every part goes to
the innermost frame, and a closing bracket makes a document of it.
-/

namespace SearchQuery

open Json

namespace Document

/-- A list or an object that is being read, with what it holds so far, the last first. -/
inductive Frame where
  | list (items : List Document)
  /-- The name is that of the member that is being read. -/
  | object (members : List (Text × Document)) (name : Text)

/-- What can be told before the next document inside is read: all of a document, or what the next
one is inside of. -/
inductive Part where
  | whole (document : Document)
  | opened (frame : Frame)

/-- Goes on to the value of the member that is read next, if there is one. -/
def readMember (members : List (Text × Document)) (next : Reading (Option Text)) : Reading Part :=
  match next with
  | .error problem => .error problem
  | .ok (none, rest) => .ok (.whole (.object members.reverse), rest)
  | .ok (some name, rest) =>
    match skipColon rest with
    | .error problem => .error problem
    | .ok value => .ok (.opened (.object members name), value)

/-- Goes on to the item that is read next, if there is one. -/
def readItem (items : List Document) (next : Reading Bool) : Reading Part :=
  Reading.mapValue (fun more => if more then .opened (.list items) else .whole (.list items.reverse))
    next

/-- Reads the beginning of a value. -/
def readStart (t : Text) : Reading Part :=
  match skipBlanks t with
  | '"' :: inner => Reading.mapValue (fun text => .whole (.string text)) (readString inner)
  | '[' :: inner => readItem [] (nextItem true inner)
  | '{' :: inner => readMember [] (nextName true inner)
  | other => .error (wrongType other)

/-- Puts a document into what it is inside of, and reads what stands behind it. -/
def readOn (frame : Frame) (document : Document) (t : Text) : Reading Part :=
  match frame with
  | .list items => readItem (document :: items) (nextItem false t)
  | .object members name => readMember ((name, document) :: members) (nextName false t)

theorem length_of_readMember {members : List (Text × Document)} {isFirst : Bool} {t rest : Text}
    {part : Part} (read : readMember members (nextName isFirst t) = .ok (part, rest)) :
    rest.length < t.length := by
  unfold readMember at read
  split at read
  · cases read
  · rename_i next
    cases read
    exact length_of_nextName next
  · rename_i next
    split at read
    · cases read
    · rename_i colon
      cases read
      exact Nat.lt_trans (length_of_skipColon colon) (length_of_nextName next)

theorem length_of_readItem {items : List Document} {isFirst : Bool} {t rest : Text} {part : Part}
    (read : readItem items (nextItem isFirst t) = .ok (part, rest)) : rest.length ≤ t.length := by
  obtain ⟨more, next, -⟩ := Reading.mapValue_eq_ok_iff.1 read
  cases more with
  | false => exact Nat.le_of_lt (length_of_nextItem_end next)
  | true => exact length_of_nextItem next

theorem length_of_readStart {t rest : Text} {part : Part} (read : readStart t = .ok (part, rest)) :
    rest.length < t.length := by
  unfold readStart at read
  split at read
  · rename_i atQuote
    obtain ⟨text, string, -⟩ := Reading.mapValue_eq_ok_iff.1 read
    exact Nat.lt_trans (length_of_readString string) (length_lt_of_skipBlanks atQuote)
  · rename_i atBracket
    exact Nat.lt_of_le_of_lt (length_of_readItem read) (length_lt_of_skipBlanks atBracket)
  · rename_i atBracket
    exact Nat.lt_trans (length_of_readMember read) (length_lt_of_skipBlanks atBracket)
  · cases read

theorem length_of_readOn {frame : Frame} {document : Document} {t rest : Text} {part : Part}
    (read : readOn frame document t = .ok (part, rest)) : rest.length ≤ t.length := by
  cases frame with
  | list items => exact length_of_readItem read
  | object members name => exact Nat.le_of_lt (length_of_readMember read)

mutual

/-- Reads a value, and then what it is inside of, the innermost first. -/
def readInside (enclosing : List Frame) (t : Text) : Reading Document :=
  match _start : readStart t with
  | .error problem => .error problem
  | .ok (.whole document, rest) => readBehind enclosing document rest
  | .ok (.opened frame, rest) => readInside (frame :: enclosing) rest
termination_by (t.length, 0)
decreasing_by
  · exact Prod.Lex.left _ _ (length_of_readStart _start)
  · exact Prod.Lex.left _ _ (length_of_readStart _start)

/-- Reads what a document is inside of, from the end of the document on. -/
def readBehind (enclosing : List Frame) (document : Document) (t : Text) : Reading Document :=
  match enclosing with
  | [] => .ok (document, t)
  | frame :: outer =>
    match _next : readOn frame document t with
    | .error problem => .error problem
    | .ok (.whole document, rest) => readBehind outer document rest
    | .ok (.opened frame, rest) => readInside (frame :: outer) rest
termination_by (t.length, enclosing.length + 1)
decreasing_by
  · rcases Nat.lt_or_eq_of_le (length_of_readOn _next) with shorter | same
    · exact Prod.Lex.left _ _ shorter
    · exact same ▸ Prod.Lex.right _ (Nat.lt_succ_self _)
  · rcases Nat.lt_or_eq_of_le (length_of_readOn _next) with shorter | same
    · exact Prod.Lex.left _ _ shorter
    · exact same ▸ Prod.Lex.right _ (Nat.succ_pos _)

end

/-- The document that a whole text is. -/
def read (t : Text) : Except Problem Document :=
  match readInside [] t with
  | .error problem => .error problem
  | .ok (document, rest) => if (skipBlanks rest).isEmpty then .ok document else .error .malformed

/-! ## Steps of the reader -/

section

variable {enclosing : List Frame} {frame : Frame} {document inner : Document} {t rest : Text}

theorem readInside_of_whole (start : readStart t = .ok (.whole document, rest)) :
    readInside enclosing t = readBehind enclosing document rest := by
  rw [readInside]
  split <;> simp_all

theorem readInside_of_opened (start : readStart t = .ok (.opened frame, rest)) :
    readInside enclosing t = readInside (frame :: enclosing) rest := by
  rw [readInside]
  split <;> simp_all

theorem readBehind_of_whole (next : readOn frame inner t = .ok (.whole document, rest)) :
    readBehind (frame :: enclosing) inner t = readBehind enclosing document rest := by
  rw [readBehind]
  split <;> simp_all

theorem readBehind_of_opened {other : Frame} (next : readOn frame inner t = .ok (.opened other, rest)) :
    readBehind (frame :: enclosing) inner t = readInside (other :: enclosing) rest := by
  rw [readBehind]
  split <;> simp_all

end

/-! ## Strings -/

theorem hexNumber?_control : ∀ code < 0x20,
    Text.hexNumber? ['0', '0', Text.hexDigit (code / 16), Text.hexDigit (code % 16)] = some code := by
  decide

theorem stringUnit_escape (c : Char) : StringUnit (escape c) c := by
  unfold escape
  -- Seven characters are an escape by themselves.
  iterate 7
    split
    · subst_vars
      exact .named (by decide)
  split
  · rename_i control
    exact .code (Text.hexNumber?_eq_some_iff.1 (hexNumber?_control _ control))
  · rename_i notQuote notEscape _ _ _ _ _ printable
    exact .plain ⟨notQuote, notEscape, Nat.le_of_not_lt printable⟩

theorem readString_flatMap_escape (text rest : Text) :
    readString (text.flatMap escape ++ '"' :: rest) = .ok (text, rest) := by
  rw [List.flatMap_def]
  refine readString_flatten (List.forall₂_map_left_iff.2 (List.forall₂_same.2 ?_)) rest
  exact fun c _ => stringUnit_escape c

/-! ## Blanks -/

theorem skipBlanks_lineBreak (layout : Layout) (level : Nat) (t : Text) :
    skipBlanks (layout.lineBreak level ++ t) = skipBlanks t := by
  apply skipBlanks_append
  cases layout with
  | compact => exact fun _ member => absurd member List.not_mem_nil
  | indented =>
      intro c member
      rcases List.mem_cons.1 member with rfl | member
      · rfl
      · exact List.eq_of_mem_replicate member ▸ rfl

theorem skipColon_colon (layout : Layout) (t : Text) :
    ∃ rest, skipColon (layout.colon ++ t) = .ok rest ∧ skipBlanks rest = skipBlanks t := by
  cases layout with
  | compact => exact ⟨t, rfl, rfl⟩
  | indented => exact ⟨' ' :: t, rfl, rfl⟩

theorem exists_opening_writeAt (layout : Layout) (level : Nat) (document : Document) :
    ∃ c inner, (c = '"' ∨ c = '[' ∨ c = '{') ∧ document.writeAt layout level = c :: inner := by
  cases document with
  | string text => exact ⟨'"', _, .inl rfl, by rw [writeAt, quote, List.cons_append]⟩
  | list items =>
      refine ⟨'[', ?_⟩
      cases items with
      | nil => exact ⟨_, .inr (.inl rfl), by rw [writeAt]⟩
      | cons item items => exact ⟨_, .inr (.inl rfl), by rw [writeAt]; rfl⟩
  | object members =>
      refine ⟨'{', ?_⟩
      cases members with
      | nil => exact ⟨_, .inr (.inr rfl), by rw [writeAt]⟩
      | cons member members => exact ⟨_, .inr (.inr rfl), by rw [writeAt]; rfl⟩

theorem skipBlanks_writeAt (layout : Layout) (level : Nat) (document : Document) (rest : Text) :
    skipBlanks (document.writeAt layout level ++ rest) = document.writeAt layout level ++ rest := by
  obtain ⟨c, inner, opening, begins⟩ := exists_opening_writeAt layout level document
  rw [begins]
  rcases opening with rfl | rfl | rfl <;> exact skipBlanks_cons rfl _

theorem skipBlanks_quote (text rest : Text) : skipBlanks (quote text ++ rest) = quote text ++ rest :=
  skipBlanks_cons rfl _

/-! ## Parts of lists and objects -/

section

variable (layout : Layout) (level : Nat) (isFirst : Bool) (items : List Document) (item : Document)
  (members : List (Text × Document)) (name rest : Text)

theorem readItem_end :
    readItem items (nextItem isFirst (layout.lineBreak level ++ ']' :: rest)) =
      .ok (.whole (.list items.reverse), rest) := by
  rw [nextItem_end ((skipBlanks_lineBreak ..).trans (skipBlanks_cons rfl rest))]
  rfl

theorem readMember_end :
    readMember members (nextName isFirst (layout.lineBreak level ++ '}' :: rest)) =
      .ok (.whole (.object members.reverse), rest) := by
  rw [nextName_end ((skipBlanks_lineBreak ..).trans (skipBlanks_cons rfl rest))]
  rfl

theorem readItem_separator :
    readItem items (nextItem isFirst (separator isFirst ++
        (layout.lineBreak level ++ (item.writeAt layout level ++ rest)))) =
      .ok (.opened (.list items), item.writeAt layout level ++ rest) := by
  have written : skipBlanks (layout.lineBreak level ++ (item.writeAt layout level ++ rest)) =
      item.writeAt layout level ++ rest :=
    (skipBlanks_lineBreak ..).trans (skipBlanks_writeAt ..)
  obtain ⟨c, inner, opening, begins⟩ := exists_opening_writeAt layout level item
  rw [begins, List.cons_append] at written ⊢
  have isItem : c ≠ ']' := by rcases opening with rfl | rfl | rfl <;> decide
  exact congrArg (readItem items) (nextItem_separator written isItem)

theorem readMember_separator :
    ∃ value, readMember members (nextName isFirst (separator isFirst ++
        (layout.lineBreak level ++ (quote name ++ (layout.colon ++ rest))))) =
      .ok (.opened (.object members name), value) ∧ skipBlanks value = skipBlanks rest := by
  have written : skipBlanks (layout.lineBreak level ++ (quote name ++ (layout.colon ++ rest))) =
      quote name ++ (layout.colon ++ rest) :=
    (skipBlanks_lineBreak ..).trans (skipBlanks_quote ..)
  have named : nextName isFirst (separator isFirst ++
      (layout.lineBreak level ++ (quote name ++ (layout.colon ++ rest)))) =
        .ok (some name, layout.colon ++ rest) := by
    have begins : quote name ++ (layout.colon ++ rest) =
        '"' :: (name.flatMap escape ++ '"' :: (layout.colon ++ rest)) := by simp [quote]
    exact nextName_separator (written.trans begins) (readString_flatMap_escape name _)
  obtain ⟨value, colon, same⟩ := skipColon_colon layout rest
  refine ⟨value, ?_, same⟩
  simp only [readMember, named, colon]

end

/-! ## Whole documents -/

section

variable {t inner rest : Text}

theorem readStart_quote {text : Text} (written : skipBlanks t = quote text ++ rest) :
    readStart t = .ok (.whole (.string text), rest) := by
  rw [quote, List.append_assoc] at written
  rw [readStart, written]
  simp only [List.cons_append, List.nil_append, readString_flatMap_escape]
  rfl

theorem readStart_list (written : skipBlanks t = '[' :: inner) :
    readStart t = readItem [] (nextItem true inner) := by
  rw [readStart, written]
  rfl

theorem readStart_object (written : skipBlanks t = '{' :: inner) :
    readStart t = readMember [] (nextName true inner) := by
  rw [readStart, written]
  rfl

end

section

variable (layout : Layout)

mutual

/-- Reading a document that is written at any level leads behind it, whatever it is inside of. -/
theorem readInside_writeAt (level : Nat) (document : Document) (enclosing : List Frame)
    {t rest : Text} (written : skipBlanks t = document.writeAt layout level ++ rest) :
    readInside enclosing t = readBehind enclosing document rest := by
  match document with
  | .string text =>
      rw [writeAt] at written
      exact readInside_of_whole (readStart_quote written)
  | .list [] =>
      rw [writeAt] at written
      have whole := readItem_end .compact level true [] rest
      exact readInside_of_whole ((readStart_list written).trans whole)
  | .list (item :: items) =>
      simp only [writeAt, List.append_assoc, List.cons_append, List.nil_append] at written
      have opened := readItem_separator layout (level + 1) true [] item
        (writeItems layout (level + 1) items ++ (layout.lineBreak level ++ ']' :: rest))
      rw [readInside_of_opened ((readStart_list written).trans opened),
        readInside_writeAt (level + 1) item _ (skipBlanks_writeAt ..)]
      exact readBehind_writeItems (level + 1) level items item [] enclosing rest
  | .object [] =>
      rw [writeAt] at written
      have whole := readMember_end .compact level true [] rest
      exact readInside_of_whole ((readStart_object written).trans whole)
  | .object ((name, value) :: members) =>
      simp only [writeAt, List.append_assoc, List.cons_append, List.nil_append] at written
      obtain ⟨_, opened, same⟩ := readMember_separator layout (level + 1) true [] name
        (value.writeAt layout (level + 1) ++
          (writeMembers layout (level + 1) members ++ (layout.lineBreak level ++ '}' :: rest)))
      rw [readInside_of_opened ((readStart_object written).trans opened),
        readInside_writeAt (level + 1) value _ (same.trans (skipBlanks_writeAt ..))]
      exact readBehind_writeMembers (level + 1) level members name value [] enclosing rest

theorem readBehind_writeItems (level outer : Nat) (items : List Document) (item : Document)
    (done : List Document) (enclosing : List Frame) (rest : Text) :
    readBehind (.list done :: enclosing) item
        (writeItems layout level items ++ (layout.lineBreak outer ++ ']' :: rest)) =
      readBehind enclosing (.list (done.reverse ++ item :: items)) rest := by
  match items with
  | [] =>
      have whole : readOn (.list done) item (layout.lineBreak outer ++ ']' :: rest) =
          .ok (.whole (.list (item :: done).reverse), rest) := readItem_end layout outer false _ rest
      rw [writeItems, List.nil_append, readBehind_of_whole whole, List.reverse_cons]
  | other :: items =>
      simp only [writeItems, List.append_assoc, List.cons_append]
      have opened : readOn (.list done) item (',' :: _) = .ok (.opened (.list (item :: done)), _) :=
        readItem_separator layout level false (item :: done) other
          (writeItems layout level items ++ (layout.lineBreak outer ++ ']' :: rest))
      refine (readBehind_of_opened opened).trans ?_
      rw [readInside_writeAt level other _ (skipBlanks_writeAt ..),
        readBehind_writeItems level outer items]
      simp only [List.reverse_cons, List.append_assoc, List.cons_append, List.nil_append]

theorem readBehind_writeMembers (level outer : Nat) (members : List (Text × Document))
    (name : Text) (value : Document) (done : List (Text × Document)) (enclosing : List Frame)
    (rest : Text) :
    readBehind (.object done name :: enclosing) value
        (writeMembers layout level members ++ (layout.lineBreak outer ++ '}' :: rest)) =
      readBehind enclosing (.object (done.reverse ++ (name, value) :: members)) rest := by
  match members with
  | [] =>
      have whole : readOn (.object done name) value (layout.lineBreak outer ++ '}' :: rest) =
          .ok (.whole (.object ((name, value) :: done).reverse), rest) :=
        readMember_end layout outer false _ rest
      rw [writeMembers, List.nil_append, readBehind_of_whole whole, List.reverse_cons]
  | (otherName, other) :: members =>
      simp only [writeMembers, List.append_assoc, List.cons_append]
      obtain ⟨behind, isNext, same⟩ := readMember_separator layout level false
        ((name, value) :: done) otherName (other.writeAt layout level ++
          (writeMembers layout level members ++ (layout.lineBreak outer ++ '}' :: rest)))
      have opened : readOn (.object done name) value (',' :: _) =
          .ok (.opened (.object ((name, value) :: done) otherName), behind) := isNext
      refine (readBehind_of_opened opened).trans ?_
      rw [readInside_writeAt level other _ (same.trans (skipBlanks_writeAt ..)),
        readBehind_writeMembers level outer members]
      simp only [List.reverse_cons, List.append_assoc, List.cons_append, List.nil_append]

end

/-- A document is read back from its text, whatever the layout of the text. -/
theorem read_write (document : Document) : read (document.write layout) = .ok document := by
  have written : skipBlanks (document.write layout) = document.writeAt layout 0 ++ [] := by
    rw [← skipBlanks_writeAt, List.append_nil, write]
  rw [read, readInside_writeAt layout 0 document [] written, readBehind]
  rfl

theorem write_inj {layout' : Layout} {first second : Document}
    (same : first.write layout = second.write layout') : first = second := by
  have readFirst := first.read_write layout
  rw [same, second.read_write layout'] at readFirst
  exact (Except.ok.inj readFirst).symm

end

end Document

end SearchQuery
