import SemanticQuery.Number.Numeral

/-!
# Binary floating-point numbers

The 64-bit binary interchange format, by meaning. All numbers of the format are multiples of the
least positive one, `2^-1074`, so a magnitude is the natural number of such units. The magnitudes
are numbered in increasing order by their *rank*, which is also what the low 63 bits of the
interchange form hold: ranks that differ by one are neighbours, and an even rank is an even
significand. The rank after the greatest finite one is infinity.

`nearest` rounds a quotient of naturals to the closest rank, ties to the even one. With infinity
standing for the next magnitude that the format would have, overflow needs no rule of its own.

Powers are taken with `Nat.pow` by name, which is the same function in every context.
-/

set_option autoImplicit false

namespace SemanticQuery.Number

/-- The rank of infinity. -/
def infiniteRank : Nat := 2047 * Nat.pow 2 52

/-- A number of the format, or not a number. All values that are not a number count as one. -/
inductive Binary64 where
  | nan
  | signed (negative : Bool) (rank : Nat) (le_infinite : rank ≤ infiniteRank)
deriving DecidableEq

namespace Binary64

/-- The magnitude of a rank, in units of `2^-1074`. -/
def units (rank : Nat) : Nat :=
  if rank < Nat.pow 2 52 then rank
  else (Nat.pow 2 52 + rank % Nat.pow 2 52) * Nat.pow 2 (rank / Nat.pow 2 52 - 1)

/-- The greatest rank whose magnitude is at most `n` units, when no rank is the last one. -/
def rankBelow (n : Nat) : Nat :=
  let shift := n.log2 - 52
  shift * Nat.pow 2 52 + n / Nat.pow 2 shift

/-- The rank closest to `num / den` units, ties to the even rank. -/
def nearest (num den : Nat) : Nat :=
  let rank := rankBelow (num / den)
  if infiniteRank ≤ rank then infiniteRank
  else
    let middle := (units rank + units (rank + 1)) * den
    if 2 * num < middle then rank
    else if middle < 2 * num then rank + 1
    else rank + rank % 2

/-- Beyond this power of ten in either direction every number is infinite or zero. -/
def exponentReach : Nat := 400

/-- The rank closest to a numeral. A nonzero significand `s` satisfies
`1 ≤ s < 10 ^ (log2 s + 1)`, so numerals far out of reach are settled without computing their
power of ten. -/
def rankOf (x : Numeral) : Nat :=
  if x.significand = 0 then 0
  else if (exponentReach : Int) < x.exponent then infiniteRank
  else if x.exponent < -((exponentReach + x.significand.log2 + 1 : Nat) : Int) then 0
  else
    match x.exponent with
    | .ofNat e => nearest (x.significand * Nat.pow 10 e * Nat.pow 2 1074) 1
    | .negSucc e => nearest (x.significand * Nat.pow 2 1074) (Nat.pow 10 (e + 1))

/-- No rounding goes past infinity. -/
theorem nearest_le (num den : Nat) : nearest num den ≤ infiniteRank := by
  simp only [nearest]
  have : infiniteRank % 2 = 0 := by decide
  split
  · omega
  · split
    · omega
    · split <;> omega

/-- No numeral goes past infinity. -/
theorem rankOf_le (x : Numeral) : rankOf x ≤ infiniteRank := by
  unfold rankOf
  split
  · exact Nat.zero_le _
  · split
    · exact Nat.le_refl _
    · split
      · exact Nat.zero_le _
      · split <;> exact nearest_le _ _

/-- The number closest to a numeral, with the given sign. -/
def ofNumeral (negative : Bool) (x : Numeral) : Binary64 :=
  .signed negative (rankOf x) (rankOf_le x)

/-- Infinity with the given sign. -/
def infinity (negative : Bool) : Binary64 :=
  .signed negative infiniteRank (Nat.le_refl _)

/-- The number with a given interchange form. -/
def ofBits (bits : UInt64) : Binary64 :=
  if h : bits.toNat % Nat.pow 2 63 ≤ infiniteRank then
    .signed (decide (Nat.pow 2 63 ≤ bits.toNat)) (bits.toNat % Nat.pow 2 63) h
  else .nan

/-- The interchange form of a number. -/
def toBits : Binary64 → UInt64
  | .nan => 0x7FF8000000000000
  | .signed negative rank _ => UInt64.ofNat (if negative then Nat.pow 2 63 + rank else rank)

/-- Numerical equality: the zeros of both signs are equal, and nothing equals what is not a
number. -/
def numericallyEqual : Binary64 → Binary64 → Bool
  | .signed n r _, .signed m s _ => r == s && (n == m || r == 0)
  | _, _ => false

/-- The words for the values that have no digits, to be read in any mixture of cases. -/
def readWord (negative : Bool) (cs : List Char) : Option Binary64 :=
  let word := String.ofList (cs.map Char.toLower)
  if word = "inf" ∨ word = "infinity" then some (infinity negative)
  else if word = "nan" then some .nan
  else none

/-- Reads a number: an optional sign and then a numeral, rounded to the nearest number, or a word
for infinity or for not a number. -/
def read (cs : List Char) : Option Binary64 :=
  let (negative, body) := splitSign cs
  match readWord negative body with
  | some x => some x
  | none => (Numeral.read body).map (ofNumeral negative)

end Binary64

end SemanticQuery.Number
