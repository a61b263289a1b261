import SemanticQuery.Text.CaseData

/-!
# Lower-casing text

The full lower-case mapping of a text. Three rules make up the mapping. A capital sigma becomes the
final form when it ends a word: a cased character stands before it and none after it, where
case-ignorable characters are looked past on both sides. A capital I with a dot above becomes two
characters. Every other character is mapped on its own by `lowerRuns`.

The mapping walks the text with the part already passed kept in reverse, so both neighbours of a
position can be inspected without an index.
-/

set_option autoImplicit false

namespace SemanticQuery.Text

/-- Membership of a character in a list of closed intervals of code points. -/
def inRanges (ranges : List (Nat × Nat)) (c : Char) : Bool :=
  ranges.any fun range => decide (range.1 ≤ c.toNat) && decide (c.toNat ≤ range.2)

/-- The property `Cased`. -/
def isCased (c : Char) : Bool :=
  inRanges casedRanges c

/-- The property `Case_Ignorable`. -/
def isCaseIgnorable (c : Char) : Bool :=
  inRanges caseIgnorableRanges c

/-- Tells whether the first character that is not case-ignorable is cased. -/
def startsCased (cs : List Char) : Bool :=
  match cs.dropWhile isCaseIgnorable with
  | [] => false
  | c :: _ => isCased c

/-- The lower-case form of a character whose neighbours do not matter. -/
def lowerAlone (c : Char) : List Char :=
  if c = '\u0130' then ['i', '\u0307']
  else
    match lowerRuns.find? (fun run => run.covers c.toNat) with
    | some run => [Char.ofNat (run.target c.toNat)]
    | none => [c]

/-- The lower-case form of a character that has the reversed text `before` on its left and the text
`after` on its right. -/
def lowerBetween (before : List Char) (c : Char) (after : List Char) : List Char :=
  if c = 'Σ' then
    if startsCased before && !startsCased after then ['ς'] else ['σ']
  else lowerAlone c

/-- Lower-cases a text that follows the reversed text `before`. -/
def lowerFrom (before : List Char) : List Char → List Char
  | [] => []
  | c :: after => lowerBetween before c after ++ lowerFrom (c :: before) after

/-- Lower-cases a sequence of characters. -/
def lowerCase (cs : List Char) : List Char :=
  lowerFrom [] cs

/-- Lower-cases a text. -/
def lowerText (s : String) : String :=
  String.ofList (lowerCase s.toList)

end SemanticQuery.Text
