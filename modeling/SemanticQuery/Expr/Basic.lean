import SemanticQuery.AggregateFunction
import SemanticQuery.Datum.Constant

/-!
# Query expressions

An expression of the query language: a tree over the entities, columns, measures and hierarchies of
a schema, with constants, date arithmetic and predicates. The tree is an ordinary value; nothing
can be observed of it but its shape and its fields.

`nodes` lists the occurrences of all nodes, every node after its children. Statements about each
node of a tree are statements about the members of this list.
-/

set_option autoImplicit false

namespace SemanticQuery

/-- The ways to compare two values. -/
inductive Comparison where
  | equal
  | greaterThan
  | greaterThanOrEqual
  | lessThan
  | lessThanOrEqual
deriving DecidableEq

namespace Comparison

/-- The sign of a comparison. -/
def symbol : Comparison → String
  | equal => "="
  | greaterThan => ">"
  | greaterThanOrEqual => ">="
  | lessThan => "<"
  | lessThanOrEqual => "<="

end Comparison

/-- The units of date arithmetic. -/
inductive TimeUnit where
  | day
  | week
  | month
  | year
  | decade
  | second
  | minute
  | hour
deriving DecidableEq

namespace TimeUnit

/-- The name of a unit. -/
def name : TimeUnit → String
  | day => "Day"
  | week => "Week"
  | month => "Month"
  | year => "Year"
  | decade => "Decade"
  | second => "Second"
  | minute => "Minute"
  | hour => "Hour"

end TimeUnit

/-- A query expression.

An entity may carry a name that is local to the query. A variation leads from a column of its
source to the hierarchies of another entity. A membership tests whether the tuple of its arguments
is one of its rows. `defaultValue` and `anyValue` are placeholders in conditions. -/
inductive Expr where
  | entity (schema name : String) (localName : Option String)
  | column (source : Expr) (name : String)
  | measure (source : Expr) (name : String)
  | aggregation (function : AggregateFunction) (argument : Expr)
  | variation (source : Expr) (name property : String)
  | hierarchy (source : Expr) (name : String)
  | level (source : Expr) (name : String)
  | and (left right : Expr)
  | or (left right : Expr)
  | compare (comparison : Comparison) (left right : Expr)
  | between (argument lower upper : Expr)
  | member (arguments : List Expr) (rows : List (List Expr))
  | contains (left right : Expr)
  | startsWith (left right : Expr)
  | nonempty (argument : Expr)
  | not (argument : Expr)
  | constant (value : Constant)
  | dateSpan (unit : TimeUnit) (argument : Expr)
  | dateAdd (unit : TimeUnit) (amount : Int64) (argument : Expr)
  | now
  | defaultValue
  | anyValue

namespace Expr

/-- The kinds of nodes. -/
inductive Kind where
  | entity
  | column
  | measure
  | aggregation
  | variation
  | hierarchy
  | level
  | and
  | or
  | compare
  | between
  | member
  | contains
  | startsWith
  | nonempty
  | not
  | constant
  | dateSpan
  | dateAdd
  | now
  | defaultValue
  | anyValue
deriving DecidableEq

/-- The kind of the root node. -/
def kind : Expr → Kind
  | entity _ _ _ => .entity
  | column _ _ => .column
  | measure _ _ => .measure
  | aggregation _ _ => .aggregation
  | variation _ _ _ => .variation
  | hierarchy _ _ => .hierarchy
  | level _ _ => .level
  | and _ _ => .and
  | or _ _ => .or
  | compare _ _ _ => .compare
  | between _ _ _ => .between
  | member _ _ => .member
  | contains _ _ => .contains
  | startsWith _ _ => .startsWith
  | nonempty _ => .nonempty
  | not _ => .not
  | constant _ => .constant
  | dateSpan _ _ => .dateSpan
  | dateAdd _ _ _ => .dateAdd
  | now => .now
  | defaultValue => .defaultValue
  | anyValue => .anyValue

mutual

/-- The occurrences of all nodes of an expression, children first and in the order of the fields;
a membership has its arguments before its rows. -/
def nodes : Expr → List Expr
  | entity schema name localName => [entity schema name localName]
  | column source name => nodes source ++ [column source name]
  | measure source name => nodes source ++ [measure source name]
  | aggregation function argument => nodes argument ++ [aggregation function argument]
  | variation source name property => nodes source ++ [variation source name property]
  | hierarchy source name => nodes source ++ [hierarchy source name]
  | level source name => nodes source ++ [level source name]
  | and left right => nodes left ++ nodes right ++ [and left right]
  | or left right => nodes left ++ nodes right ++ [or left right]
  | compare comparison left right => nodes left ++ nodes right ++ [compare comparison left right]
  | between argument lower upper =>
      nodes argument ++ nodes lower ++ nodes upper ++ [between argument lower upper]
  | member arguments rows => nodesOfAll arguments ++ nodesOfRows rows ++ [member arguments rows]
  | contains left right => nodes left ++ nodes right ++ [contains left right]
  | startsWith left right => nodes left ++ nodes right ++ [startsWith left right]
  | nonempty argument => nodes argument ++ [nonempty argument]
  | not argument => nodes argument ++ [not argument]
  | constant value => [constant value]
  | dateSpan unit argument => nodes argument ++ [dateSpan unit argument]
  | dateAdd unit amount argument => nodes argument ++ [dateAdd unit amount argument]
  | now => [now]
  | defaultValue => [defaultValue]
  | anyValue => [anyValue]

/-- The nodes of a list of expressions. -/
def nodesOfAll : List Expr → List Expr
  | [] => []
  | e :: rest => nodes e ++ nodesOfAll rest

/-- The nodes of a list of rows. -/
def nodesOfRows : List (List Expr) → List Expr
  | [] => []
  | row :: rest => nodesOfAll row ++ nodesOfRows rest

end

/-- The kinds of the nodes that are reached from the root through conjunctions alone, every
conjunction before its operands. -/
def conjunctKinds : Expr → List Kind
  | and left right => .and :: (conjunctKinds left ++ conjunctKinds right)
  | e => [e.kind]

end Expr

end SemanticQuery
