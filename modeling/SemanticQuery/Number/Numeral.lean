/-!
# Decimal numerals

A decimal numeral `±s·10^e` as a value of its own, the texts that denote one, and the positional
text of one. Reading takes an optional sign, digits with an optional point that has a digit on at
least one side, and an optional exponent. Writing never uses an exponent: all digits are spelled
out, and a point appears only when the exponent is negative.
-/

set_option autoImplicit false

namespace SemanticQuery.Number

/-- Splits a text into its leading digits and the rest. -/
def spanDigits (cs : List Char) : List Char × List Char :=
  (cs.takeWhile Char.isDigit, cs.dropWhile Char.isDigit)

/-- The number that a sequence of digits denotes. -/
def digitsValue (digits : List Char) : Nat :=
  Nat.ofDigitChars 10 digits 0

/-- The digits of a number, with zeros in front up to a given width. -/
def padded (width n : Nat) : List Char :=
  List.replicate (width - (Nat.toDigits 10 n).length) '0' ++ Nat.toDigits 10 n

/-- Splits off an optional sign; the first part tells whether it was a minus sign. -/
def splitSign : List Char → Bool × List Char
  | [] => (false, [])
  | c :: rest =>
      if c = '-' then (true, rest) else if c = '+' then (false, rest) else (false, c :: rest)

/-- Reads a nonempty sequence of digits and nothing else. -/
def readDigits (cs : List Char) : Option Nat :=
  if cs.isEmpty || !cs.all Char.isDigit then none else some (digitsValue cs)

/-- Reads an integer: an optional sign and at least one digit. -/
def readInt (cs : List Char) : Option Int :=
  let (negative, digits) := splitSign cs
  (readDigits digits).map fun n => if negative then -(n : Int) else (n : Int)

/-- The digits of an integer after a minus sign if it is negative. -/
def writeInt (i : Int) : List Char :=
  if i < 0 then '-' :: Nat.toDigits 10 i.natAbs else Nat.toDigits 10 i.natAbs

/-- The decimal number `significand · 10 ^ exponent`. -/
structure Numeral where
  significand : Nat
  exponent : Int
deriving DecidableEq

namespace Numeral

/-- Reads what may follow the digits of a numeral: nothing, or an exponent mark and an integer. -/
def readExponent : List Char → Option Int
  | [] => some 0
  | mark :: rest => if mark = 'e' ∨ mark = 'E' then readInt rest else none

/-- Reads an unsigned numeral. The digits after the point lower the exponent by one each. -/
def read (cs : List Char) : Option Numeral :=
  let (whole, afterWhole) := spanDigits cs
  let (fraction, rest) :=
    match afterWhole with
    | '.' :: afterPoint => spanDigits afterPoint
    | _ => ([], afterWhole)
  if whole.isEmpty && fraction.isEmpty then none
  else
    (readExponent rest).map fun exponent =>
      ⟨digitsValue (whole ++ fraction), exponent - fraction.length⟩

/-- The positional text of a numeral. With a negative exponent the point stands in front of the
last digits, and zeros are added so that at least one digit stands before it. -/
def write (x : Numeral) : List Char :=
  match x.exponent with
  | .ofNat zeros => Nat.toDigits 10 x.significand ++ List.replicate zeros '0'
  | .negSucc below =>
      let places := below + 1
      let digits := padded (places + 1) x.significand
      digits.take (digits.length - places) ++ '.' :: digits.drop (digits.length - places)

end Numeral

end SemanticQuery.Number
