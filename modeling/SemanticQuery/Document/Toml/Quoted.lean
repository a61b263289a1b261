import SemanticQuery.Text.Reader

/-!
# TOML texts in quotes

The four kinds of quoted texts: basic ones with escapes and literal ones without, each on one line
or, with three quotes at both ends, on several. On several lines a line break right after the
opening is dropped, a carriage return with a line feed becomes a line feed, and one or two quotes
may stand anywhere, even right before the closing.
-/

set_option autoImplicit false

namespace SemanticQuery.Document.Toml

open SemanticQuery.Text

/-- The characters that stand between tokens on a line. -/
def isBlank (c : Char) : Bool :=
  c == ' ' || c == '\t'

/-- Takes a line break. -/
def newline : Reader Unit :=
  Reader.char '\n' <|> Reader.word ['\r', '\n']

/-- The characters that texts and comments may hold: all but the control characters, of which the
tab is allowed. -/
def isPrintable (c : Char) : Bool :=
  c == '\t' || (' ' ≤ c && c != '\x7f')

/-- Takes a character given by a count of hexadecimal digits. -/
def codePoint (count : Nat) : Reader Char := do
  let code ← Reader.hexNumber count
  if code.isValidChar then return Char.ofNat code else failure

/-- Takes an escape. -/
def escape : Reader Char := do
  Reader.char '\\'
  let c ← Reader.satisfying fun _ => true
  if c = 'b' then return '\x08'
  else if c = 't' then return '\t'
  else if c = 'n' then return '\n'
  else if c = 'f' then return '\x0c'
  else if c = 'r' then return '\r'
  else if c = '"' ∨ c = '\\' then return c
  else if c = 'u' then codePoint 4
  else if c = 'U' then codePoint 8
  else failure

/-- Takes a character other than the given quote that stands for itself. -/
def plain (isQuote : Char → Bool) : Reader Char :=
  Reader.satisfying fun c => isPrintable c && !isQuote c

/-- Takes a character of a basic text. -/
def basicChar : Reader Char :=
  plain (fun c => c == '"' || c == '\\') <|> escape

/-- Takes a text in quotes on one line. -/
def line (quote : Char) (content : Reader Char) : Reader String := do
  Reader.char quote
  let cs ← Reader.many content
  Reader.char quote
  return String.ofList cs

/-- Takes a backslash at the end of a line with the line breaks and blanks after it. -/
def continuation : Reader Unit := do
  Reader.char '\\'
  discard (Reader.run isBlank)
  newline
  discard (Reader.many (newline <|> discard (Reader.satisfying isBlank)))

/-- Takes one or two quotes that end nothing. -/
def innerQuotes (quote : Char) : Reader (List Char) := do
  let quotes ← Reader.run1 (· == quote)
  if quotes.length < 3 then return quotes else failure

/-- Takes the closing of a text on several lines; quotes beyond three belong to the text. -/
def closing (quote : Char) : Reader (List Char) := do
  let quotes ← Reader.run1 (· == quote)
  if 3 ≤ quotes.length ∧ quotes.length ≤ 5 then return quotes.drop 3 else failure

/-- Takes a text in quotes on several lines, given a reader of its content other than quotes and
line breaks. -/
def lines (quote : Char) (content : Reader (List Char)) : Reader String := do
  Reader.word [quote, quote, quote]
  discard (Reader.optional newline)
  let pieces ← Reader.many
    (content <|> (do newline; return ['\n']) <|> innerQuotes quote)
  let last ← closing quote
  return String.ofList (pieces.flatten ++ last)

/-- Takes a basic text on one line. -/
def basicLine : Reader String :=
  line '"' basicChar

/-- Takes a literal text on one line. -/
def literalLine : Reader String :=
  line '\'' (plain (· == '\''))

/-- Takes a basic text on several lines. -/
def basicLines : Reader String :=
  lines '"' ((do continuation; return []) <|> (do return [← basicChar]))

/-- Takes a literal text on several lines. -/
def literalLines : Reader String :=
  lines '\'' do return [← plain (· == '\'')]

/-- Takes a quoted text of any kind. -/
def quoted : Reader String := do
  if ← Reader.ahead ['"', '"', '"'] then basicLines
  else if ← Reader.ahead ['\'', '\'', '\''] then literalLines
  else if ← Reader.ahead ['"'] then basicLine
  else literalLine

end SemanticQuery.Document.Toml
