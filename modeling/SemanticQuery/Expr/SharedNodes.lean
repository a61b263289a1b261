import SemanticQuery.Expr.Equality

/-!
# Equality of expressions that share nodes

Expressions are put together from nodes that may stand at several places, in one expression and in
two that are compared. A comparison that meets one node on both sides need not look any further.

A place in an expression is an address: the numbers of the children on the way down from the root,
where the children of a membership are its arguments and then the entries of its rows. Which places
are occupied by one node is not to be seen from the expressions, so the comparison is handed a test
that tells it.
-/

set_option autoImplicit false

namespace SemanticQuery

/-- A place in an expression: the numbers of the children on the way down from the root. -/
abbrev Address := List Nat

/-- Tells of a place in one expression and a place in another whether one node occupies both. -/
abbrev IdentityTest := Address → Address → Bool

namespace IdentityTest

/-- The test for the places below two children. -/
def below (same : IdentityTest) (child child' : Nat) : IdentityTest :=
  fun address address' => same (child :: address) (child' :: address')

end IdentityTest

namespace Expr

mutual

/-- Structural equality of expressions that looks no further where one node is met on both sides. -/
def equalsSharing (ignoreCase : Bool) (same : IdentityTest) (x y : Expr) : Bool :=
  same [] [] ||
    match x, y with
    | entity schema name localName, entity schema' name' localName' =>
        schema == schema' && name == name' && localNamesAgree localName localName'
    | column source name, column source' name' =>
        name == name' && equalsSharing ignoreCase (same.below 0 0) source source'
    | measure source name, measure source' name' =>
        name == name' && equalsSharing ignoreCase (same.below 0 0) source source'
    | aggregation function argument, aggregation function' argument' =>
        function == function' && equalsSharing ignoreCase (same.below 0 0) argument argument'
    | variation source name property, variation source' name' property' =>
        name == name' && property == property' &&
          equalsSharing ignoreCase (same.below 0 0) source source'
    | hierarchy source name, hierarchy source' name' =>
        name == name' && equalsSharing ignoreCase (same.below 0 0) source source'
    | level source name, level source' name' =>
        name == name' && equalsSharing ignoreCase (same.below 0 0) source source'
    | and left right, and left' right' =>
        equalsSharing ignoreCase (same.below 0 0) left left' &&
          equalsSharing ignoreCase (same.below 1 1) right right'
    | or left right, or left' right' =>
        equalsSharing ignoreCase (same.below 0 0) left left' &&
          equalsSharing ignoreCase (same.below 1 1) right right'
    | compare comparison left right, compare comparison' left' right' =>
        comparison == comparison' && equalsSharing ignoreCase (same.below 0 0) left left' &&
          equalsSharing ignoreCase (same.below 1 1) right right'
    | between argument lower upper, between argument' lower' upper' =>
        equalsSharing ignoreCase (same.below 0 0) argument argument' &&
          equalsSharing ignoreCase (same.below 1 1) lower lower' &&
            equalsSharing ignoreCase (same.below 2 2) upper upper'
    | member arguments rows, member arguments' rows' =>
        equalsAllSharing ignoreCase same 0 0 arguments arguments' &&
          equalsRowsSharing ignoreCase same arguments.length arguments'.length rows rows'
    | contains left right, contains left' right' =>
        equalsSharing ignoreCase (same.below 0 0) left left' &&
          equalsSharing ignoreCase (same.below 1 1) right right'
    | startsWith left right, startsWith left' right' =>
        equalsSharing ignoreCase (same.below 0 0) left left' &&
          equalsSharing ignoreCase (same.below 1 1) right right'
    | nonempty argument, nonempty argument' =>
        equalsSharing ignoreCase (same.below 0 0) argument argument'
    | not argument, not argument' =>
        equalsSharing ignoreCase (same.below 0 0) argument argument'
    | constant value, constant value' => value.equals ignoreCase value'
    | dateSpan unit argument, dateSpan unit' argument' =>
        unit == unit' && equalsSharing ignoreCase (same.below 0 0) argument argument'
    | dateAdd unit amount argument, dateAdd unit' amount' argument' =>
        unit == unit' && amount == amount' &&
          equalsSharing ignoreCase (same.below 0 0) argument argument'
    | now, now => true
    | defaultValue, defaultValue => true
    | anyValue, anyValue => true
    | _, _ => false

/-- Equality of lists whose entries are the children from given numbers on. -/
def equalsAllSharing (ignoreCase : Bool) (same : IdentityTest) (child child' : Nat) :
    List Expr → List Expr → Bool
  | [], others => others.isEmpty
  | e :: rest, others =>
      match others with
      | [] => false
      | e' :: rest' =>
          equalsSharing ignoreCase (same.below child child') e e' &&
            equalsAllSharing ignoreCase same (child + 1) (child' + 1) rest rest'

/-- Equality of lists of rows whose entries are the children from given numbers on. -/
def equalsRowsSharing (ignoreCase : Bool) (same : IdentityTest) (child child' : Nat) :
    List (List Expr) → List (List Expr) → Bool
  | [], others => others.isEmpty
  | row :: rest, others =>
      match others with
      | [] => false
      | row' :: rest' =>
          equalsAllSharing ignoreCase same child child' row row' &&
            equalsRowsSharing ignoreCase same (child + row.length) (child' + row'.length)
              rest rest'

end

end Expr

end SemanticQuery
