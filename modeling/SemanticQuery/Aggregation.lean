import SemanticQuery.Expr.Rewrite
import SemanticQuery.Schema.Field
import SemanticQuery.Settings

/-!
# Choosing aggregates

Which aggregates a field supports, which one it is given when nobody chooses, and the aggregation
that a field is wrapped in when it is shown.
-/

set_option autoImplicit false

namespace SemanticQuery

namespace ValueType

/-- The aggregates of numbers. -/
def numericAggregates : List AggregateFunction :=
  [.sum, .avg, .min, .max, .count, .countNonNull, .median, .standardDeviation, .variance]

/-- The aggregates of dates and times. -/
def temporalAggregates : List AggregateFunction :=
  [.min, .max, .count, .countNonNull]

/-- The aggregates of all other values. -/
def countAggregates : List AggregateFunction :=
  [.count, .countNonNull]

/-- The aggregates that a type supports. -/
def aggregates (type : ValueType) : List AggregateFunction :=
  if type.isNumeric then numericAggregates
  else if type.isTemporal then temporalAggregates
  else countAggregates

/-- The aggregate that a type suggests. -/
def defaultAggregate (type : ValueType) : AggregateFunction :=
  if type.isNumeric then .sum else .count

end ValueType

namespace Property

/-- The aggregates that a column supports: the ones it lists; counting alone for a column of the
entity key; and otherwise those of its type. A measure supports none. -/
def supportedAggregates (p : Property) : List AggregateFunction :=
  match p.kind with
  | .measure => []
  | .column =>
      match p.traits with
      | none => p.type.aggregates
      | some traits =>
          match traits.aggregates with
          | some listed => listed
          | none => if traits.inEntityKey then ValueType.countAggregates else p.type.aggregates

/-- The default that a column declares; none is declared by a column without traits. -/
def declaredAggregate (p : Property) : DeclaredAggregate :=
  p.traits.elim .unspecified ColumnTraits.defaultAggregate

/-- The aggregate of a column when nobody chooses one. A number has its declared default, or that of
its type unless the declaration suppresses it. With `force`, the default of the type stands in for
a missing one. Measures have none. -/
def defaultAggregate? (force : Bool) (p : Property) : Option AggregateFunction :=
  match p.kind with
  | .measure => none
  | .column =>
      let chosen :=
        if p.type.isNumeric && p.declaredAggregate != .suppressed then
          some (p.declaredAggregate.function?.getD p.type.defaultAggregate)
        else none
      if chosen.isNone && force then some p.type.defaultAggregate else chosen

end Property

namespace Expr

/-- The aggregates that the field of an expression supports; without a field there are none. -/
def supportedAggregates (provider : Provider) (e : Expr) : List AggregateFunction :=
  match e.field? provider with
  | some field => field.property.supportedAggregates
  | none => []

/-- The supported aggregates follow from the field. -/
theorem supportedAggregates_congr {provider provider' : Provider} {e e' : Expr}
    (h : e.field? provider = e'.field? provider') :
    e.supportedAggregates provider = e'.supportedAggregates provider' := by
  rw [supportedAggregates, supportedAggregates, h]

/-- Tells whether the field of an expression supports an aggregate. -/
def supportsAggregate (provider : Provider) (e : Expr) (function : AggregateFunction) : Bool :=
  (e.supportedAggregates provider).contains function

/-- The aggregate of an expression when nobody chooses one. An aggregation has none, for it is
aggregated already, and neither has an expression without a field. -/
def defaultAggregate? (provider : Provider) (force : Bool) : Expr → Option AggregateFunction
  | aggregation _ _ => none
  | e => (e.field? provider).bind fun field => field.property.defaultAggregate? force

/-- The aggregate that an expression is shown with: the preferred one if its field supports it, or
its default, or the count of present values if fields without a default are to be aggregated. -/
def chosenAggregate? (provider : Provider) (options : AggregationOptions) (e : Expr) :
    Option AggregateFunction :=
  match options.preferred.filter (e.supportsAggregate provider) with
  | some function => some function
  | none =>
      match e.defaultAggregate? provider false with
      | some function => some function
      | none => if options.aggregateNonNumericFields then some .countNonNull else none

/-- The choice looks at the supported aggregates and at the default. -/
theorem chosenAggregate?_congr {provider provider' : Provider} {e e' : Expr}
    (hsupported : e.supportedAggregates provider = e'.supportedAggregates provider')
    (hdefault : e.defaultAggregate? provider false = e'.defaultAggregate? provider' false)
    (options : AggregationOptions) :
    e.chosenAggregate? provider options = e'.chosenAggregate? provider' options := by
  have hsupports : e.supportsAggregate provider = e'.supportsAggregate provider' := by
    funext function
    rw [supportsAggregate, supportsAggregate, hsupported]
  rw [chosenAggregate?, chosenAggregate?, hsupports, hdefault]

/-- Wraps an expression in the aggregate that it is shown with. -/
def aggregated (provider : Provider) (options : AggregationOptions) (e : Expr) : Revision :=
  (e.chosenAggregate? provider options).map fun function => aggregation function e

end Expr

end SemanticQuery
