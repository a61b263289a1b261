import SemanticQuery.Calendar.DateTime
import SemanticQuery.Document.Basic
import SemanticQuery.Number.Binary64
import SemanticQuery.Text.Reader

/-!
# TOML scalars without quotes

Booleans, integers, floating-point numbers, dates and times. Each of them is a token of letters,
digits and a few signs, so a token is cut out first and then recognized as a whole. Integers have to
fit into 64 bits, floating-point numbers may not overflow to positive infinity, and dates and times
have to exist, where second 60 is granted to leap seconds.
-/

set_option autoImplicit false

namespace SemanticQuery.Document.Toml

open SemanticQuery.Text SemanticQuery.Number SemanticQuery.Calendar

/-- The characters of unquoted scalars. -/
def isTokenChar (c : Char) : Bool :=
  c.isAlphanum || c == '_' || c == '+' || c == '-' || c == '.' || c == ':'

/-- Drops the underscores between the digits of a number. None may stand at an end or beside
another one. -/
def ungroup (isDigit : Char → Bool) : List Char → Option (List Char)
  | [] => none
  | [c] => if isDigit c then some [c] else none
  | c :: d :: rest =>
      if isDigit c then
        if d = '_' then (ungroup isDigit rest).map (c :: ·)
        else (ungroup isDigit (d :: rest)).map (c :: ·)
      else none

/-- The digits of an unsigned decimal integer: no zero stands in front of other digits. -/
def wholeDigits (cs : List Char) : Option (List Char) :=
  (ungroup Char.isDigit cs).filter fun digits => digits.length == 1 || digits.head? != some '0'

/-- Recognizes a decimal integer. -/
def isDecimalInteger (cs : List Char) : Bool :=
  let (negative, digits) := splitSign cs
  match wholeDigits digits with
  | some digits =>
      let n := digitsValue digits
      if negative then n ≤ Nat.pow 2 63 else n < Nat.pow 2 63
  | none => false

/-- Recognizes the digits of an integer in another base. -/
def isIntegerOf (base : Nat) (cs : List Char) : Bool :=
  match (ungroup (fun c => (digitValue? base c).isSome) cs).bind (digitsValue? base) with
  | some n => n < Nat.pow 2 63
  | none => false

/-- Recognizes an integer: decimal, or in base 16, 8 or 2 after a mark and without a sign. -/
def isInteger : List Char → Bool
  | '0' :: 'x' :: digits => isIntegerOf 16 digits
  | '0' :: 'o' :: digits => isIntegerOf 8 digits
  | '0' :: 'b' :: digits => isIntegerOf 2 digits
  | cs => isDecimalInteger cs

/-- The exponent that follows the digits of a floating-point number; the empty text is one. -/
def exponent? : List Char → Option Int
  | [] => some 0
  | mark :: rest =>
      if mark = 'e' ∨ mark = 'E' then
        let (negative, digits) := splitSign rest
        (ungroup Char.isDigit digits).map fun digits =>
          if negative then -(digitsValue digits : Int) else digitsValue digits
      else none

/-- The numeral that an unsigned floating-point number spells. A point, an exponent or both have to
be there. -/
def numeral? (cs : List Char) : Option Numeral := do
  let isPart := fun (c : Char) => c.isDigit || c == '_'
  let whole ← wholeDigits (cs.takeWhile isPart)
  match cs.dropWhile isPart with
  | '.' :: rest =>
      let fraction ← ungroup Char.isDigit (rest.takeWhile isPart)
      let exponent ← exponent? (rest.dropWhile isPart)
      return ⟨digitsValue (whole ++ fraction), exponent - fraction.length⟩
  | [] => none
  | rest =>
      let exponent ← exponent? rest
      return ⟨digitsValue whole, exponent⟩

/-- Recognizes a floating-point number. -/
def isFloat (cs : List Char) : Bool :=
  let (negative, body) := splitSign cs
  if body = ['i', 'n', 'f'] ∨ body = ['n', 'a', 'n'] then true
  else
    match numeral? body with
    | some x => negative || Binary64.rankOf x != infiniteRank
    | none => false

/-- Takes a number of exactly two digits, at most the given one. -/
def twoDigits (greatest : Nat) : Reader Nat := fun cs =>
  (DateTime.takeDigits 2 cs).filter fun (n, _) => n ≤ greatest

/-- Takes a date. -/
def date : Reader Unit := do
  let year ← DateTime.takeDigits 4
  Reader.char '-'
  let month ← DateTime.takeDigits 2
  Reader.char '-'
  let day ← DateTime.takeDigits 2
  if (Date.of? year month day).isNone then failure

/-- Takes a time of day. -/
def timeOfDay : Reader Unit := do
  discard (twoDigits 23)
  Reader.char ':'
  discard (twoDigits 59)
  Reader.char ':'
  discard (twoDigits 60)
  discard (Reader.optional do
    Reader.char '.'
    Reader.run1 Char.isDigit)

/-- Takes the distance from universal time. -/
def offset : Reader Unit := do
  let c ← Reader.satisfying fun c => c == 'Z' || c == 'z' || c == '+' || c == '-'
  if c = '+' ∨ c = '-' then
    discard (twoDigits 23)
    Reader.char ':'
    discard (twoDigits 59)

/-- Recognizes a date, a time of day, or both with an optional offset. -/
def isDateTime (cs : List Char) : Bool :=
  let dated : Reader Unit := do
    date
    discard (Reader.optional do
      discard (Reader.satisfying fun c => c == 'T' || c == 't' || c == ' ')
      timeOfDay
      discard (Reader.optional offset))
  (Reader.whole dated cs).isSome || (Reader.whole timeOfDay cs).isSome

/-- The document that a token spells. -/
def tokenDocument? (cs : List Char) : Option Document :=
  if cs = ['t', 'r', 'u', 'e'] then some (boolean true)
  else if cs = ['f', 'a', 'l', 's', 'e'] then some (boolean false)
  else if isInteger cs || isFloat cs then some Document.number
  else if isDateTime cs then some Document.dateTime
  else none

/-- Takes a token. A date and a time of day may be separated by a single space. -/
def token : Reader (List Char) := do
  let first ← Reader.run1 isTokenChar
  if (Reader.whole date first).isSome then
    let second ← Reader.optional do
      Reader.char ' '
      Reader.run1 isTokenChar
    match second with
    | some second => return first ++ ' ' :: second
    | none => return first
  else return first

/-- Takes an unquoted scalar. -/
def scalar : Reader Document := do
  match tokenDocument? (← token) with
  | some document => return document
  | none => failure

end SemanticQuery.Document.Toml
