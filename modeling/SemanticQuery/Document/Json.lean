import SemanticQuery.Document.Basic
import SemanticQuery.Text.Reader

/-!
# Reading JSON

JSON texts as documents. The grammar is the standard one without extensions: no comments, no
trailing commas, no byte order mark, and nothing but blanks after the value. There is no limit on
nesting.

A text may spell UTF-16 code units by escapes, and so a sequence that is no text because a
surrogate has no partner. Such a text is kept as an invalid one.
-/

set_option autoImplicit false

namespace SemanticQuery.Document.Json

open SemanticQuery.Text

/-- The characters that may stand between tokens. -/
def isBlank (c : Char) : Bool :=
  c == ' ' || c == '\n' || c == '\t' || c == '\r'

/-- Takes blanks. -/
def blanks : Reader Unit :=
  discard (Reader.run isBlank)

/-- A piece of a text: a character, or a code unit spelled by an escape. -/
inductive Piece where
  | char (c : Char)
  | unit (code : Nat)

/-- The character that a one-letter escape stands for. -/
def escaped? (c : Char) : Option Char :=
  if c = '"' ∨ c = '\\' ∨ c = '/' then some c
  else if c = 'b' then some '\x08'
  else if c = 'f' then some '\x0c'
  else if c = 'n' then some '\n'
  else if c = 'r' then some '\r'
  else if c = 't' then some '\t'
  else none

/-- Takes an escape. -/
def escape : Reader Piece := do
  Reader.char '\\'
  let c ← Reader.satisfying fun _ => true
  if c = 'u' then return .unit (← Reader.hexNumber 4)
  else
    match escaped? c with
    | some c => return .char c
    | none => failure

/-- The characters that stand for themselves in a text. -/
def isPlain (c : Char) : Bool :=
  c != '"' && c != '\\' && ' ' ≤ c

/-- Takes a piece of a text. -/
def piece : Reader Piece :=
  (Piece.char <$> Reader.satisfying isPlain) <|> escape

/-- The first code units of a surrogate pair. -/
def isLead (code : Nat) : Bool :=
  0xD800 ≤ code && code < 0xDC00

/-- The second code units of a surrogate pair. -/
def isTrail (code : Nat) : Bool :=
  0xDC00 ≤ code && code < 0xE000

/-- Joins the pieces of a text; nothing comes of a surrogate without a partner. -/
def join : List Piece → Option (List Char)
  | [] => some []
  | .char c :: rest => (join rest).map (c :: ·)
  | .unit code :: rest =>
      if isLead code then
        match rest with
        | .unit next :: rest' =>
            if isTrail next then
              (join rest').map
                (Char.ofNat (0x10000 + (code - 0xD800) * 0x400 + (next - 0xDC00)) :: ·)
            else none
        | _ => none
      else if isTrail code then none
      else (join rest).map (Char.ofNat code :: ·)

/-- Takes a text in quotes, valid or not. -/
def quoted : Reader (Option String) := do
  Reader.char '"'
  let pieces ← Reader.many piece
  Reader.char '"'
  return (join pieces).map String.ofList

/-- Takes a number: no zero in front of other digits, and a digit after a point. -/
def number : Reader Unit := do
  discard (Reader.optional (Reader.char '-'))
  Reader.char '0' <|> do
    discard (Reader.satisfying fun c => '1' ≤ c && c ≤ '9')
    discard (Reader.run Char.isDigit)
  discard (Reader.optional do
    Reader.char '.'
    Reader.run1 Char.isDigit)
  discard (Reader.optional do
    discard (Reader.satisfying fun c => c == 'e' || c == 'E')
    discard (Reader.optional (Reader.satisfying fun c => c == '+' || c == '-'))
    Reader.run1 Char.isDigit)

/-- Takes items in brackets, separated by commas. Blanks before an item are taken by the item. -/
def bracketed {α : Type} (opening closing : Char) (item : Reader α) : Reader (List α) := do
  Reader.char opening
  blanks
  match ← Reader.optional (Reader.char closing) with
  | some () => return []
  | none =>
      let first ← item
      blanks
      let others ← Reader.many do
        Reader.char ','
        let next ← item
        blanks
        return next
      Reader.char closing
      return first :: others

/-- Takes an entry of a table, given a reader of values. -/
def entry (value : Reader Document) : Reader (Option String × Document) := do
  blanks
  let name ← quoted
  blanks
  Reader.char ':'
  let value ← value
  return (name, value)

/-- Takes a value and the blanks before it, nested to a bounded depth. -/
def value : Nat → Reader Document
  | 0 => failure
  | depth + 1 => do
      blanks
      match ← Reader.peek with
      | some '\x7b' => return table (← bracketed '\x7b' '\x7d' (entry (value depth)))
      | some '[' => return list (← bracketed '[' ']' (value depth))
      | some '"' => return text (← quoted)
      | some 't' => do
          Reader.word ['t', 'r', 'u', 'e']
          return boolean true
      | some 'f' => do
          Reader.word ['f', 'a', 'l', 's', 'e']
          return boolean false
      | some 'n' => do
          Reader.word ['n', 'u', 'l', 'l']
          return null
      | _ => do
          number
          return Document.number

/-- Reads a JSON text. The nesting is bounded by the length of the text, which no text reaches. -/
def read? (s : String) : Option Document :=
  let cs := s.toList
  Reader.whole (do
    let document ← value (cs.length + 1)
    blanks
    return document) cs

/-- JSON allows no surplus in a list that stands for a record, and writes null beside the name of a
choice. -/
def dialect : Dialect where
  allowsSurplus := false
  isUnit
    | null => true
    | _ => false

end SemanticQuery.Document.Json
