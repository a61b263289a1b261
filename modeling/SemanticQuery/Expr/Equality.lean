import SemanticQuery.Expr.Basic
import SemanticQuery.Text.LowerCase

/-!
# Structural equality

Two expressions are equal when they have the same shape and the same fields, with two exceptions.
The local names of entities are compared only where both sides carry one. Constants are compared by
type and spelling, not by value, and with `ignoreCase` the spellings of texts are lower-cased
first.
-/

set_option autoImplicit false

namespace SemanticQuery

namespace Constant

/-- Equality of constants by type and spelling. -/
def equals (ignoreCase : Bool) (x y : Constant) : Bool :=
  x.type == y.type &&
    if ignoreCase && x.type.isText then
      Text.lowerText x.encoded == Text.lowerText y.encoded
    else x.encoded == y.encoded

end Constant

namespace Expr

/-- Agreement of local names: a missing one agrees with any other. -/
def localNamesAgree : Option String → Option String → Bool
  | some x, some y => x == y
  | _, _ => true

mutual

/-- Structural equality of expressions. -/
def equals (ignoreCase : Bool) : Expr → Expr → Bool
  | entity schema name localName, other =>
      match other with
      | entity schema' name' localName' =>
          schema == schema' && name == name' && localNamesAgree localName localName'
      | _ => false
  | column source name, other =>
      match other with
      | column source' name' => name == name' && equals ignoreCase source source'
      | _ => false
  | measure source name, other =>
      match other with
      | measure source' name' => name == name' && equals ignoreCase source source'
      | _ => false
  | aggregation function argument, other =>
      match other with
      | aggregation function' argument' =>
          function == function' && equals ignoreCase argument argument'
      | _ => false
  | variation source name property, other =>
      match other with
      | variation source' name' property' =>
          name == name' && property == property' && equals ignoreCase source source'
      | _ => false
  | hierarchy source name, other =>
      match other with
      | hierarchy source' name' => name == name' && equals ignoreCase source source'
      | _ => false
  | level source name, other =>
      match other with
      | level source' name' => name == name' && equals ignoreCase source source'
      | _ => false
  | and left right, other =>
      match other with
      | and left' right' => equals ignoreCase left left' && equals ignoreCase right right'
      | _ => false
  | or left right, other =>
      match other with
      | or left' right' => equals ignoreCase left left' && equals ignoreCase right right'
      | _ => false
  | compare comparison left right, other =>
      match other with
      | compare comparison' left' right' =>
          comparison == comparison' && equals ignoreCase left left' &&
            equals ignoreCase right right'
      | _ => false
  | between argument lower upper, other =>
      match other with
      | between argument' lower' upper' =>
          equals ignoreCase argument argument' && equals ignoreCase lower lower' &&
            equals ignoreCase upper upper'
      | _ => false
  | member arguments rows, other =>
      match other with
      | member arguments' rows' =>
          equalsAll ignoreCase arguments arguments' && equalsRows ignoreCase rows rows'
      | _ => false
  | contains left right, other =>
      match other with
      | contains left' right' => equals ignoreCase left left' && equals ignoreCase right right'
      | _ => false
  | startsWith left right, other =>
      match other with
      | startsWith left' right' => equals ignoreCase left left' && equals ignoreCase right right'
      | _ => false
  | nonempty argument, other =>
      match other with
      | nonempty argument' => equals ignoreCase argument argument'
      | _ => false
  | not argument, other =>
      match other with
      | not argument' => equals ignoreCase argument argument'
      | _ => false
  | constant value, other =>
      match other with
      | constant value' => value.equals ignoreCase value'
      | _ => false
  | dateSpan unit argument, other =>
      match other with
      | dateSpan unit' argument' => unit == unit' && equals ignoreCase argument argument'
      | _ => false
  | dateAdd unit amount argument, other =>
      match other with
      | dateAdd unit' amount' argument' =>
          unit == unit' && amount == amount' && equals ignoreCase argument argument'
      | _ => false
  | now, other =>
      match other with
      | now => true
      | _ => false
  | defaultValue, other =>
      match other with
      | defaultValue => true
      | _ => false
  | anyValue, other =>
      match other with
      | anyValue => true
      | _ => false

/-- Equality of lists of expressions: equal lengths and equal entries at each position. -/
def equalsAll (ignoreCase : Bool) : List Expr → List Expr → Bool
  | [], others => others.isEmpty
  | e :: rest, others =>
      match others with
      | [] => false
      | e' :: rest' => equals ignoreCase e e' && equalsAll ignoreCase rest rest'

/-- Equality of lists of rows. -/
def equalsRows (ignoreCase : Bool) : List (List Expr) → List (List Expr) → Bool
  | [], others => others.isEmpty
  | row :: rest, others =>
      match others with
      | [] => false
      | row' :: rest' => equalsAll ignoreCase row row' && equalsRows ignoreCase rest rest'

end

/-- Equality of expressions that may be absent: two absent ones are equal, an absent one and a
present one are not. -/
def equalsOptional (ignoreCase : Bool) : Option Expr → Option Expr → Bool
  | none, none => true
  | some x, some y => equals ignoreCase x y
  | _, _ => false

/-- The position of the first entry that equals the target. -/
def indexOf? (entries : List Expr) (target : Expr) : Option Nat :=
  entries.findIdx? fun e => equals false e target

end Expr

end SemanticQuery
