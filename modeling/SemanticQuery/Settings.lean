import SemanticQuery.AggregateFunction

/-!
# Settings

The switches of validation and of aggregate selection, with their defaults.
-/

set_option autoImplicit false

namespace SemanticQuery

/-- The switches of validation. -/
structure ValidationOptions where
  /-- Report references to properties that are in error. -/
  rejectUnqueryable : Bool := true
  /-- Check the types of the operands of comparisons, memberships and text predicates. -/
  checkValueTypes : Bool := true
deriving DecidableEq

/-- The switches of aggregate selection. -/
structure AggregationOptions where
  /-- Count the values that are present where a field has no default aggregate. -/
  aggregateNonNumericFields : Bool := false
  /-- The aggregate that is tried first. -/
  preferred : Option AggregateFunction := none
deriving DecidableEq

/-- All settings. -/
structure Settings where
  validation : ValidationOptions := {}
  aggregation : AggregationOptions := {}
deriving DecidableEq

end SemanticQuery
