import SemanticQuery.Number.Binary64

/-!
# Shortest decimal texts

The text of a floating-point number: the fewest significant digits that read back to the number,
and of those the closest ones, an exact tie going up; always positional.

The digits are found by trying the power of ten next above the number and then the grids of one,
two, … seventeen significant digits. On each grid only the two neighbours of the number can be
closest, and whether a neighbour will do is decided by reading it. Should no grid have a hit, the
exact expansion is taken, so the digits read back whatever the search does.
-/

set_option autoImplicit false

namespace SemanticQuery.Number.Binary64

/-- The exact decimal expansion of a rank. -/
def exactNumeral (rank : Nat) : Numeral :=
  ⟨units rank * Nat.pow 5 1074, -1074⟩

/-- Tells whether `10 ^ e` is at most `n` units. -/
def reachesPower (n : Nat) (e : Int) : Bool :=
  match e with
  | .ofNat k => decide (Nat.pow 10 k * Nat.pow 2 1074 ≤ n)
  | .negSucc k => decide (Nat.pow 2 1074 ≤ n * Nat.pow 10 (k + 1))

/-- The number of places before the point: the least `k` with `n` units below `10 ^ k`, searched
upwards from an estimate by the binary logarithm that is never too high. -/
def wholePlaces (n : Nat) : Int :=
  let estimate := ((n.log2 : Int) - 1074) * 1233 / 4096
  if !reachesPower n estimate then estimate
  else if !reachesPower n (estimate + 1) then estimate + 1
  else estimate + 2

/-- The greatest multiple of `10 ^ e` that is at most `n` units, and twice the remainder compared
with the width of the grid: how the upper neighbour compares in closeness. -/
def gridBelow (n : Nat) (e : Int) : Nat × Ordering :=
  match e with
  | .ofNat k =>
      let width := Nat.pow 10 k * Nat.pow 2 1074
      (n / width, compare (2 * (n % width)) width)
  | .negSucc k =>
      let scaled := n * Nat.pow 10 (k + 1)
      (scaled / Nat.pow 2 1074, compare (2 * (scaled % Nat.pow 2 1074)) (Nat.pow 2 1074))

/-- The closer one of the two neighbours on the grid of multiples of `10 ^ e` that read back to the
rank, the upper one in a tie; none when neither reads back. -/
def onGrid (rank : Nat) (e : Int) : Option Numeral :=
  let (below, upper) := gridBelow (units rank) e
  let low : Numeral := ⟨below, e⟩
  let high : Numeral := ⟨below + 1, e⟩
  match decide (rankOf low = rank), decide (rankOf high = rank) with
  | true, true => some (if upper = .lt then low else high)
  | true, false => some low
  | false, true => some high
  | false, false => none

/-- The numeral with the fewest significant digits that reads back to the rank. -/
def shortest (rank : Nat) : Numeral :=
  let places := wholePlaces (units rank)
  ((List.range 18).findSome? fun (n : Nat) => onGrid rank (places - n)).getD (exactNumeral rank)

/-- The text of a magnitude. -/
def writeRank (rank : Nat) : List Char :=
  if rank = 0 then ['0']
  else if rank = infiniteRank then ['i', 'n', 'f']
  else (shortest rank).write

/-- The text of a number: `NaN`, or an optional minus sign and the text of the magnitude. -/
def write : Binary64 → List Char
  | .nan => ['N', 'a', 'N']
  | .signed negative rank _ => if negative then '-' :: writeRank rank else writeRank rank

end SemanticQuery.Number.Binary64
