import SemanticQuery.Document.Toml.Outline
import SemanticQuery.Document.Toml.Quoted
import SemanticQuery.Document.Toml.Scalar

/-!
# Reading TOML

TOML texts, version 1.0, as documents. Line by line a text holds headers, entries and comments.
Values may be nested to a bounded depth, and keys have a bounded number of parts.
-/

set_option autoImplicit false

namespace SemanticQuery.Document.Toml

open SemanticQuery.Text

/-- One more than the depth to which arrays and tables in braces may be nested, and one more than
the number of parts of a key. -/
def nestingLimit : Nat := 80

/-- Takes the blanks on a line. -/
def blanks : Reader Unit :=
  discard (Reader.run isBlank)

/-- Takes a comment up to the end of the line. -/
def comment : Reader Unit := do
  Reader.char '#'
  discard (Reader.run isPrintable)

/-- Takes blanks, line breaks and comments, as they may stand between the items of an array. -/
def layout : Reader Unit :=
  discard (Reader.many
    (discard (Reader.satisfying isBlank) <|> newline <|> do comment; newline))

/-- Takes a part of a key: letters, digits, underscores and dashes, or a quoted text on one line. -/
def keyPart : Reader String := do
  match ← Reader.peek with
  | some '"' => basicLine
  | some '\'' => literalLine
  | _ =>
      let cs ← Reader.run1 fun c => c.isAlphanum || c == '_' || c == '-'
      return String.ofList cs

/-- Takes a dotted key with the blanks around its parts. -/
def key : Reader Key := do
  let part : Reader String := do
    blanks
    let name ← keyPart
    blanks
    return name
  let first ← part
  let others ← Reader.many do
    Reader.char '.'
    part
  if others.length + 1 < nestingLimit then return first :: others else failure

/-- Takes the items of an array. A comma may follow the last one. -/
def array (value : Reader Document) : Reader (List Document) := do
  Reader.char '['
  layout
  let items ← Reader.many do
    let item ← value
    layout
    match ← Reader.optional (Reader.char ',') with
    | some () =>
        layout
        return (item, true)
    | none => return (item, false)
  Reader.char ']'
  if items.dropLast.all Prod.snd then return items.map Prod.fst else failure

/-- Takes an entry: a key and a value. -/
def assignment (value : Reader Document) : Reader (Key × Document) := do
  let name ← key
  Reader.char '='
  blanks
  let content ← value
  return (name, content)

/-- Takes the entries of a table in braces, all on one line and without a comma after the last. -/
def braced (value : Reader Document) : Reader (List (Key × Document)) := do
  Reader.char '\x7b'
  blanks
  match ← Reader.optional (Reader.char '\x7d') with
  | some () => return []
  | none =>
      let item := do
        let item ← assignment value
        blanks
        return item
      let first ← item
      let others ← Reader.many do
        Reader.char ','
        item
      Reader.char '\x7d'
      return first :: others

/-- Takes a value, given a reader of the values inside it unless nothing may be nested in it. -/
def valueOver (inner : Option (Reader Document)) : Reader Document := do
  match ← Reader.peek, inner with
  | some '"', _ => return text (some (← quoted))
  | some '\'', _ => return text (some (← quoted))
  | some '[', some inner => return list (← array inner)
  | some '\x7b', some inner =>
      match inlineTable? (← braced inner) with
      | some document => return document
      | none => failure
  | _, _ => scalar

/-- Takes a value, nested to a bounded depth. -/
def value : Nat → Reader Document
  | 0 => valueOver none
  | depth + 1 => valueOver (some (value depth))

/-- What a line says. -/
inductive Line where
  | blank
  | header (header : Header)
  | entry (key : Key) (content : Document)

/-- Takes a header. -/
def header : Reader Header := do
  if ← Reader.ahead ['[', '['] then
    Reader.word ['[', '[']
    let name ← key
    Reader.word [']', ']']
    return .item name
  else
    Reader.char '['
    let name ← key
    Reader.char ']'
    return .table name

/-- Takes what a line says. -/
def statement : Reader Line := do
  match ← Reader.peek with
  | none => return .blank
  | some c =>
      if c = '[' then return .header (← header)
      else if c = '#' ∨ c = '\n' ∨ c = '\r' then return .blank
      else
        let (name, content) ← assignment (value (nestingLimit - 1))
        return .entry name content

/-- Takes a line without the line break: blanks, a statement and a comment. -/
def lineContent : Reader Line := do
  blanks
  let content ← statement
  blanks
  discard (Reader.optional comment)
  return content

/-- Groups lines into blocks: a header opens one, and entries belong to the block they follow. -/
def blocks : Header → List Line → List Block
  | current, [] => [⟨current, []⟩]
  | current, .blank :: rest => blocks current rest
  | current, .header next :: rest => ⟨current, []⟩ :: blocks next rest
  | current, .entry name content :: rest =>
      match blocks current rest with
      | [] => [⟨current, [(name, content)]⟩]
      | block :: others => ⟨block.header, (name, content) :: block.pairs⟩ :: others

/-- Reads a TOML text. A byte order mark in front of it is ignored. -/
def read? (s : String) : Option Document :=
  let lines := Reader.whole (do
    discard (Reader.optional (Reader.char '\uFEFF'))
    let first ← lineContent
    let others ← Reader.many do
      newline
      lineContent
    return first :: others) s.toList
  lines.bind fun lines => ofBlocks? (blocks .top lines)

/-- TOML ignores the surplus of an array that stands for a record. It has no null: an empty array
or table stands beside the name of a choice. -/
def dialect : Dialect where
  allowsSurplus := true
  isUnit
    | list [] => true
    | table [] => true
    | _ => false

end SemanticQuery.Document.Toml
