import SearchQuery.Term

/-! # Queries as they are written

`Query` is the language of queries without regard to the layout of a text: a list of items,
each with a condition. `Query.Written` says which texts a query can be written as, and
`Query.clauses` and `Query.rejections` what it means. None of these mentions how a text is
read.
-/

namespace SearchQuery

/-- A value, a name or a part of one that needs no quotes. -/
structure Word where
  text : Text
  nonempty : text ≠ []
  plain : ∀ c ∈ text, c ∉ [' ', '\\', '"', '\'', '(', ')', ':', '=', '~', '<', '>']
  unsigned : ∀ c ∈ text.head?, c ≠ '+' ∧ c ≠ '-'

/-- A word that is more than blanks. -/
structure FieldName extends Word where
  named : Text.trim text ≠ []

/-- Any text between two quote characters. -/
structure Quotation where
  mark : Char
  isMark : Text.isQuote mark
  content : Text

/-- The value of a field without quotes. It may be empty. -/
structure PlainValue where
  text : Text
  plain : ∀ c ∈ text, c ∉ [' ', '\\', '"', '\'', '(', ')']

inductive Value where
  | quoted (quotation : Quotation)
  | plain (value : PlainValue)

/-- The sigils that stand between the colon of a field and its value. -/
inductive ValueSigil where
  | keyword
  | regex
  | above
  | below
  deriving DecidableEq

/-- The value of a field, with a sigil or without. What follows the colon must not look like a
sigil if it is none. -/
structure FieldValue where
  sigil : Option ValueSigil
  value : Value
  unmistakable : sigil = none → ∀ plain, value = .plain plain →
    ∀ c ∈ plain.text.head?, c ∉ ['=', '~', '<', '>']

/-- Texts without quotes and backslashes in which every parenthesis has its other. -/
inductive Balanced : Text → Prop where
  | empty : Balanced []
  | char {c : Char} {rest : Text} : c ∉ ['(', ')', '"', '\'', '\\'] → Balanced rest →
      Balanced (c :: rest)
  | parens {inner rest : Text} : Balanced inner → Balanced rest →
      Balanced ('(' :: inner ++ ')' :: rest)

mutual

/-- What stands between the spaces of a query. -/
inductive Item where
  | word (word : Word)
  | literal (quotation : Quotation)
  | field (name : FieldName) (value : FieldValue)
  | freeText (name : FieldName) (text : { text : Text // Balanced text })
  | group (query : Query)

/-- A list of items, each with the condition under which it occurs. -/
inductive Query where
  | empty
  | item (occur : Occur) (item : Item) (rest : Query)

end

/-! ## Texts of a query -/

/-- What stands before an item that occurs in this way. -/
def Occur.sign : Occur → Text
  | .should => []
  | .must => ['+']
  | .mustNot => ['-']

namespace ValueSigil

def char : ValueSigil → Char
  | .keyword => '='
  | .regex => '~'
  | .above => '>'
  | .below => '<'

def toSigil : ValueSigil → Sigil
  | .keyword => .keyword
  | .regex => .regex
  | .above => .above
  | .below => .below

end ValueSigil

/-- A text in which backslashes and the quote character have a backslash before them. -/
def Text.escaped (mark : Char) (content : Text) : Text :=
  content.flatMap fun c => if c = '\\' ∨ c = mark then ['\\', c] else [c]

namespace Quotation

def text (quotation : Quotation) : Text :=
  quotation.mark :: Text.escaped quotation.mark quotation.content ++ [quotation.mark]

end Quotation

namespace Value

def text : Value → Text
  | .quoted quotation => quotation.text
  | .plain value => value.text

end Value

namespace FieldValue

def text (value : FieldValue) : Text := (value.sigil.map ValueSigil.char).toList ++ value.value.text

end FieldValue

def Text.spaces (count : Nat) : Text := List.replicate count ' '

mutual

/-- The texts that an item can be written as. -/
inductive Item.Written : Item → Text → Prop where
  | word (word : Word) : Item.Written (.word word) word.text
  | literal (quotation : Quotation) : Item.Written (.literal quotation) quotation.text
  | field (name : FieldName) (value : FieldValue) :
      Item.Written (.field name value) (name.text ++ ':' :: value.text)
  | freeText (name : FieldName) (text : { text : Text // Balanced text }) :
      Item.Written (.freeText name text) (name.text ++ ':' :: '(' :: text.val ++ [')'])
  | group {query : Query} {text : Text} (leading : Nat) : Query.Listed query text →
      Item.Written (.group query) ('(' :: Text.spaces leading ++ text ++ [')'])

/-- The texts that a query can be written as, but for the spaces at their beginning. -/
inductive Query.Listed : Query → Text → Prop where
  | empty : Query.Listed .empty []
  | item {occur : Occur} {item : Item} {rest : Query} {text following : Text} (gap : Nat) :
      Item.Written item text → Query.Listed rest following → 0 < gap ∨ following = [] →
      Query.Listed (.item occur item rest) (occur.sign ++ text ++ Text.spaces gap ++ following)

end

/-- The texts that a query can be written as. -/
def Query.Written (query : Query) (text : Text) : Prop :=
  ∃ leading listed, Query.Listed query listed ∧ text = Text.spaces leading ++ listed

/-! ## What a query means -/

namespace Value

/-- What a value stands for, and whether it stands in quotes. -/
def literal : Value → Literal
  | .quoted quotation => ⟨quotation.content, true⟩
  | .plain value => ⟨Text.trim value.text, false⟩

end Value

namespace FieldValue

def kind (value : FieldValue) : MatchKind :=
  match value.sigil with
  | none => .auto
  | some sigil => .sigil sigil.toSigil

end FieldValue

namespace Settings

/-- The leaf of a value on a field that is named in a query, in the scopes of the field. -/
def onField (settings : Settings) (name : Text) (kind : MatchKind) (literal : Literal) :
    BuiltTerm :=
  let field := settings.storedField name
  let checked := settings.checkValue field literal.value
  { clause := settings.nest field (kind.leaf field checked.1 literal.quoted)
    rejections := checked.2 }

/-- The choice between the leaves of a value on the default fields. -/
def onDefaultFields (settings : Settings) (literal : Literal) : BuiltTerm where
  clause := .bool [] [] (settings.defaultFields.map fun field =>
    settings.nest field (.text field (settings.checkValue field literal.value).1 literal.quoted))
  rejections := settings.defaultFields.flatMap fun field =>
    (settings.checkValue field literal.value).2

end Settings

mutual

/-- The clause that an item stands for, and the values in it that are refused. -/
def Item.meaning (settings : Settings) : Item → BuiltTerm
  | .word word => settings.onDefaultFields ⟨Text.trim word.text, false⟩
  | .literal quotation => settings.onDefaultFields ⟨quotation.content, true⟩
  | .field name value => settings.onField (Text.trim name.text) value.kind value.value.literal
  | .freeText name text =>
    settings.onField (Text.trim name.text) (.sigil .freeText) ⟨Text.trim text.val, false⟩
  | .group query =>
    { clause := .bool (Query.occurring settings .must query)
        (Query.occurring settings .mustNot query) (Query.occurring settings .should query)
      rejections := Query.rejections settings query }

/-- The clauses of the items that occur in the given way, in order. -/
def Query.occurring (settings : Settings) (occur : Occur) : Query → List Clause
  | .empty => []
  | .item other item rest =>
    if other = occur then (Item.meaning settings item).clause :: Query.occurring settings occur rest
    else Query.occurring settings occur rest

/-- The values in a query that are refused, in order. -/
def Query.rejections (settings : Settings) : Query → List Rejection
  | .empty => []
  | .item _ item rest => (Item.meaning settings item).rejections ++ Query.rejections settings rest

end

/-- The clauses that a query stands for. -/
def Query.clauses (settings : Settings) (query : Query) : Clauses where
  must := query.occurring settings .must
  mustNot := query.occurring settings .mustNot
  should := query.occurring settings .should

mutual

/-- The number of groups in an item that lie in each other. -/
def Item.depth : Item → Nat
  | .word _ | .literal _ | .field _ _ | .freeText _ _ => 0
  | .group query => Query.depth query + 1

/-- The number of groups in a query that lie in each other. -/
def Query.depth : Query → Nat
  | .empty => 0
  | .item _ item rest => max (Item.depth item) (Query.depth rest)

end

end SearchQuery
