import SemanticQuery.Dictionary

/-!
# Documents

What a data format says, in the terms that records are decoded from: texts, switches, lists and
tables. A table keeps its entries in order, repetitions included. A text or a name may be invalid,
when its format can spell sequences that are no text; that matters only where it is used. Numbers
and date-times have no use in any record, so only their presence is kept.

Decoding follows one set of rules for all formats. Entries of unknown names are ignored together
with everything inside them; a record needs each known name at most once; a list may stand for a
record and has the fields in the order of their declaration, of which the last ones may be left
out; in a dictionary the last of several values of a name counts. Formats differ in two points,
which make up a `Dialect`.
-/

set_option autoImplicit false

namespace SemanticQuery

/-- The content of a document. -/
inductive Document where
  | null
  | boolean (value : Bool)
  | number
  | dateTime
  | text (content : Option String)
  | list (items : List Document)
  | table (entries : List (Option String × Document))

namespace Document

/-- Where formats differ in how records are decoded from them. -/
structure Dialect where
  /-- A list that stands for a record may have more items than the record has fields; the surplus
  is ignored. -/
  allowsSurplus : Bool
  /-- What stands beside the name of a choice that is written as a table of one entry. -/
  isUnit : Document → Bool

/-- The known fields of a record that a document gives. -/
abbrev Fields := List (String × Document)

/-- The entries of a table, if all their names are valid. -/
def namedEntries? (entries : List (Option String × Document)) : Option Fields :=
  entries.mapM fun entry => entry.1.map fun name => (name, entry.2)

/-- Reads a document as a record with the given field names. A date-time is a record without any of
them. -/
def record? (dialect : Dialect) (names : List String) : Document → Option Fields
  | table entries => do
      let named ← namedEntries? entries
      let known := named.filter fun entry => names.contains entry.1
      if names.any fun name => 1 < known.countP fun entry => entry.1 == name then none
      else return known
  | list items =>
      if dialect.allowsSurplus || items.length ≤ names.length then some (names.zip items)
      else none
  | dateTime => some []
  | _ => none

/-- Reads a document as a text. -/
def text? : Document → Option String
  | text content => content
  | _ => none

/-- Reads a document as a switch. -/
def boolean? : Document → Option Bool
  | boolean value => some value
  | _ => none

/-- Reads a document as one of several names: the name alone, or a table with the name as its only
entry. -/
def choice? {α : Type} (dialect : Dialect) (ofName? : String → Option α) : Document → Option α
  | text (some name) => ofName? name
  | table [(some name, payload)] => if dialect.isUnit payload then ofName? name else none
  | _ => none

/-- Reads a document as a list. -/
def list? {α : Type} (decode : Document → Option α) : Document → Option (List α)
  | list items => items.mapM decode
  | _ => none

/-- Reads a document as a dictionary. -/
def dictionary? {α : Type} (decode : Document → Option α) : Document → Option (Dictionary α)
  | table entries => do
      let named ← namedEntries? entries
      let decoded ← named.mapM fun entry => (decode entry.2).map fun value => (entry.1, value)
      return Dictionary.ofList decoded
  | _ => none

/-- Reads a document that may be null. -/
def nullable? {α : Type} (decode : Document → Option α) : Document → Option (Option α)
  | null => some none
  | document => (decode document).map some

namespace Fields

/-- The value of a field that has to be there. -/
def required {α : Type} (fields : Fields) (name : String) (decode : Document → Option α) :
    Option α :=
  (fields.lookup name).bind decode

/-- The value of a field, or a default when it is absent. -/
def optional {α : Type} (fields : Fields) (name : String) (default : α)
    (decode : Document → Option α) : Option α :=
  match fields.lookup name with
  | some document => decode document
  | none => some default

end Fields

end Document

end SemanticQuery
