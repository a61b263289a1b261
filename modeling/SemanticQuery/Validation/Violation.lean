import SemanticQuery.AggregateFunction
import SemanticQuery.Datum.ValueType

/-!
# Violations

What validation can find wrong with an expression, with a code for programs and a text for people.
-/

set_option autoImplicit false

namespace SemanticQuery

/-- The predicates on texts that restrict their operands. -/
inductive TextPredicate where
  | contains
  | startsWith
deriving DecidableEq

namespace TextPredicate

/-- The name of a text predicate in messages. -/
def name : TextPredicate → String
  | contains => "contains"
  | startsWith => "startsWith"

end TextPredicate

/-- Something that is wrong with an expression. -/
inductive Violation where
  /-- A function that the aggregated field does not support. -/
  | aggregate (function : AggregateFunction) (property : String)
  /-- A schema that the provider does not know. -/
  | schemaReference (schema : String)
  /-- An entity that its schema does not have. -/
  | entityReference (schema entity : String)
  /-- A property that is missing, not a column or not queryable. -/
  | columnReference (entity property : String)
  /-- A property that is missing, not a measure or not queryable. -/
  | measureReference (entity property : String)
  /-- A text predicate on something other than a column. -/
  | leftOperand (predicate : TextPredicate)
  /-- A text predicate with something other than a text constant. -/
  | rightOperand (predicate : TextPredicate)
  /-- A value of a type that does not fit the expected one. -/
  | valueType (expected found : ValueType)
deriving DecidableEq

namespace Violation

/-- The code of a violation. -/
def code : Violation → String
  | aggregate _ _ => "InvalidAggregateFunction"
  | schemaReference _ => "InvalidSchemaReference"
  | entityReference _ _ => "InvalidEntityReference"
  | columnReference _ _ => "InvalidColumnReference"
  | measureReference _ _ => "InvalidMeasureReference"
  | leftOperand _ => "InvalidLeftOperandType"
  | rightOperand _ => "InvalidRightOperandType"
  | valueType _ _ => "InvalidValueType"

/-- The text of a violation. -/
def message : Violation → String
  | aggregate function property =>
      "aggregate " ++ function.displayName ++ " not supported on '" ++ property ++ "'"
  | schemaReference schema => "unknown schema '" ++ schema ++ "'"
  | entityReference schema entity =>
      "unknown entity '" ++ entity ++ "' in schema '" ++ schema ++ "'"
  | columnReference entity property =>
      "'" ++ property ++ "' is not a queryable column of '" ++ entity ++ "'"
  | measureReference entity property =>
      "'" ++ property ++ "' is not a queryable measure of '" ++ entity ++ "'"
  | leftOperand predicate => predicate.name ++ " requires a column reference on the left"
  | rightOperand predicate => predicate.name ++ " requires a text constant on the right"
  | valueType expected found =>
      found.name ++ " value is not compatible with " ++ expected.name

/-- The text of a violation after its code. -/
def display (v : Violation) : String :=
  "[" ++ v.code ++ "] " ++ v.message

end Violation

end SemanticQuery
