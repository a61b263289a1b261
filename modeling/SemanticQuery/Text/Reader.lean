import SemanticQuery.Number.Digit

/-!
# Readers

A reader takes something off the front of a text, given as a list of characters, or fails. Failing
takes nothing, so a reader that fails can be replaced by another one. Repetition is bounded by the
length of the text, which is no restriction for readers that take at least one character.
-/

set_option autoImplicit false

namespace SemanticQuery.Text

/-- A reader of values of a given type from the front of a text. -/
abbrev Reader (α : Type) := StateT (List Char) Option α

namespace Reader

variable {α : Type}

/-- The next character, left in place. -/
def peek : Reader (Option Char) :=
  fun cs => some (cs.head?, cs)

/-- The next character, if it satisfies a condition. -/
def satisfying (accept : Char → Bool) : Reader Char
  | [] => none
  | c :: rest => if accept c then some (c, rest) else none

/-- A given character. -/
def char (c : Char) : Reader Unit :=
  discard (satisfying (· == c))

/-- A given sequence of characters. -/
def word : List Char → Reader Unit
  | [] => pure ()
  | c :: rest => do
      char c
      word rest

/-- The longest run of characters that satisfy a condition; it may be empty. -/
def run (accept : Char → Bool) : Reader (List Char) :=
  fun cs => some (cs.takeWhile accept, cs.dropWhile accept)

/-- The longest run of characters that satisfy a condition, which must not be empty. -/
def run1 (accept : Char → Bool) : Reader (List Char) := do
  let cs ← run accept
  if cs.isEmpty then failure else return cs

/-- Tells whether the text goes on with a given sequence of characters, left in place. -/
def ahead (word : List Char) : Reader Bool :=
  fun cs => some (word.isPrefixOf cs, cs)

/-- A given count of characters. -/
def exactly (count : Nat) : Reader (List Char) := fun cs =>
  if count ≤ cs.length then some (cs.take count, cs.drop count) else none

/-- A number of a given count of hexadecimal digits. -/
def hexNumber (count : Nat) : Reader Nat := do
  match Number.digitsValue? 16 (← exactly count) with
  | some n => return n
  | none => failure

/-- What a reader takes, or nothing if it fails. -/
def optional (reader : Reader α) : Reader (Option α) :=
  fun cs =>
    match reader cs with
    | some (a, rest) => some (some a, rest)
    | none => some (none, cs)

/-- Repeats a reader until it fails, a bounded number of times. -/
def manyUpTo (reader : Reader α) : Nat → Reader (List α)
  | 0 => pure []
  | bound + 1 => fun cs =>
      match reader cs with
      | none => some ([], cs)
      | some (a, rest) =>
          (manyUpTo reader bound rest).map fun (taken, rest) => (a :: taken, rest)

/-- Repeats a reader until it fails. -/
def many (reader : Reader α) : Reader (List α) :=
  fun cs => manyUpTo reader cs.length cs

/-- Takes a whole text. -/
def whole (reader : Reader α) (cs : List Char) : Option α :=
  match reader cs with
  | some (a, []) => some a
  | _ => none

end Reader

end SemanticQuery.Text
