import SemanticQuery.Expr.Rewrite

/-!
# Changing the aggregation of an expression

Both revisions look at the root alone: a column can be aggregated, and an existing aggregation can
have its function replaced or be taken away.
-/

set_option autoImplicit false

namespace SemanticQuery.Expr

/-- Aggregates a column by a function, or replaces the function of an aggregation. All other
expressions are kept, and so is an aggregation by that very function. -/
def setAggregate (function : AggregateFunction) : Expr → Revision
  | column source name => some (aggregation function (column source name))
  | aggregation current argument =>
      if current = function then none else some (aggregation function argument)
  | _ => none

/-- Takes away the outermost aggregation. -/
def removeAggregate : Expr → Revision
  | aggregation _ argument => some argument
  | _ => none

end SemanticQuery.Expr
