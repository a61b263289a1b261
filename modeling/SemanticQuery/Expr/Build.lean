import SemanticQuery.Expr.Equality

/-!
# Building expressions

The ways to build an expression that are more than a constructor: memberships, whose rows have to be
as long as the argument list; constants with a chosen spelling, which has to describe the value;
and disjunctions, which merge two memberships over equal arguments into one.
-/

set_option autoImplicit false

namespace SemanticQuery

/-- The reasons for refusing to build an expression. -/
inductive BuildError where
  /-- A row of a membership is longer or shorter than the argument list. -/
  | unevenRow
  /-- The spelling of a constant does not decode to its value. -/
  | unfaithfulSpelling
deriving DecidableEq

namespace BuildError

/-- The text of a refusal. -/
def message : BuildError → String
  | unevenRow => "In value tuples must match the argument count"
  | unfaithfulSpelling => "constant encoding"

end BuildError

namespace Expr

/-- The constant expression for a datum. -/
def ofDatum (value : Datum) : Expr :=
  .constant (Constant.ofDatum value)

/-- The constant expression for a datum with a chosen spelling. -/
def spelled (value : Datum) (encoded : String) : Except BuildError Expr :=
  match Constant.spelled? value encoded with
  | some c => .ok (.constant c)
  | none => .error .unfaithfulSpelling

/-- The rows have as many entries as there are arguments. -/
def rowsFit (arguments : List Expr) (rows : List (List Expr)) : Bool :=
  rows.all fun row => row.length == arguments.length

/-- The predicate that the tuple of the arguments is one of the rows. -/
def membership (arguments : List Expr) (rows : List (List Expr)) : Except BuildError Expr :=
  if rowsFit arguments rows then .ok (.member arguments rows) else .error .unevenRow

/-- The disjunction of two predicates. Two memberships with equal arguments become one membership
that has the rows of the left one and then the rows of the right one. -/
def disjunction (left right : Expr) : Expr :=
  match left, right with
  | member arguments rows, member arguments' rows' =>
      if equalsAll false arguments arguments' then .member arguments (rows ++ rows')
      else .or left right
  | _, _ => .or left right

/-- The conjunction of two predicates that may be absent; an absent one counts for nothing. -/
def andOptional : Option Expr → Option Expr → Option Expr
  | some left, some right => some (.and left right)
  | some left, none => some left
  | none, right => right

/-- The disjunction of two predicates that may be absent; an absent one counts for nothing. -/
def orOptional : Option Expr → Option Expr → Option Expr
  | some left, some right => some (disjunction left right)
  | some left, none => some left
  | none, right => right

end Expr

end SemanticQuery
