import SemanticQuery.Datum.ValueType
import SemanticQuery.Number.Shortest
import SemanticQuery.Calendar.DateTime
import SemanticQuery.Text.Quoted

/-!
# Data and their encodings

A datum is the native value of a constant. Its encoding is a text that names the type and spells
the value: quoted text, digits with the suffix `L`, `D` or `M`, a quoted date with the word
`datetime` in front, or one of three words. `decode` reads an encoding; it accepts more spellings
than `encode` writes.
-/

set_option autoImplicit false

namespace SemanticQuery

open SemanticQuery.Number SemanticQuery.Calendar SemanticQuery.Text

/-- The native value of a constant. Decimals are kept as floating-point numbers. -/
inductive Datum where
  | null
  | boolean (value : Bool)
  | integer (value : Int64)
  | double (value : Binary64)
  | decimal (value : Binary64)
  | text (value : String)
  | dateTime (value : DateTime)
deriving DecidableEq

namespace Datum

/-- The type of a datum. -/
def type : Datum → ValueType
  | null => .null
  | boolean _ => .boolean
  | integer _ => .integer
  | double _ => .double
  | decimal _ => .decimal
  | text _ => .text
  | dateTime _ => .dateTime

/-- Equality of values as numbers: zeros of both signs are equal, and what is not a number equals
nothing. All other data are equal when they are the same. -/
def valueEqual : Datum → Datum → Bool
  | double x, double y => x.numericallyEqual y
  | decimal x, decimal y => x.numericallyEqual y
  | x, y => x == y

/-- Sameness of data: the sign of a zero counts, and all values that are not a number are the
same. -/
def same (x y : Datum) : Bool :=
  x == y

/-- What stands in front of the quoted text of a date. -/
def dateTimeOpening : List Char :=
  ['d', 'a', 't', 'e', 't', 'i', 'm', 'e', '\'']

/-- The encoding of a datum as a sequence of characters. -/
def encodeChars : Datum → List Char
  | null => ['n', 'u', 'l', 'l']
  | boolean true => ['t', 'r', 'u', 'e']
  | boolean false => ['f', 'a', 'l', 's', 'e']
  | integer i => writeInt i.toInt ++ ['L']
  | double x => x.write ++ ['D']
  | decimal x => x.write ++ ['M']
  | text s => Quoted.write s.toList
  | dateTime t => dateTimeOpening ++ t.write ++ ['\'']

/-- The encoding of a datum. -/
def encode (x : Datum) : String :=
  String.ofList x.encodeChars

/-- Reads an integer that fits into 64 bits. -/
def readInt64 (cs : List Char) : Option Int64 :=
  (readInt cs).bind fun i =>
    if Int64.minValue.toInt ≤ i ∧ i ≤ Int64.maxValue.toInt then some (Int64.ofInt i) else none

/-- Reads digits by the suffix that follows them. -/
def decodeNumber (cs : List Char) : Option Datum :=
  match cs.getLast? with
  | some 'L' => (readInt64 cs.dropLast).map integer
  | some 'D' => (Binary64.read cs.dropLast).map double
  | some 'M' => (Binary64.read cs.dropLast).map decimal
  | _ => none

/-- What follows a given opening. -/
def afterOpening : List Char → List Char → Option (List Char)
  | [], cs => some cs
  | _ :: _, [] => none
  | c :: opening, d :: cs => if c = d then afterOpening opening cs else none

/-- What stands between the opening of a date and a final apostrophe. -/
def dateTimeBody (cs : List Char) : Option (List Char) :=
  (afterOpening dateTimeOpening cs).bind fun rest =>
    if rest.getLast? = some '\'' then some rest.dropLast else none

/-- Reads an encoding given as a sequence of characters. A text that is delimited like a date is a
date or nothing. -/
def decodeChars (cs : List Char) : Option Datum :=
  if cs = encodeChars null then some null
  else if cs = encodeChars (boolean true) then some (boolean true)
  else if cs = encodeChars (boolean false) then some (boolean false)
  else
    match dateTimeBody cs with
    | some body => (DateTime.read body).map dateTime
    | none =>
        match Quoted.read cs with
        | some body => some (text (String.ofList body))
        | none => decodeNumber cs

/-- Reads an encoding. -/
def decode (encoded : String) : Option Datum :=
  decodeChars encoded.toList

end Datum

end SemanticQuery
