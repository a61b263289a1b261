/-!
# Aggregate functions

The functions that turn the values of a field into one value, with the names they go by.
-/

set_option autoImplicit false

namespace SemanticQuery

/-- The functions that aggregate the values of a field. -/
inductive AggregateFunction where
  | sum
  | avg
  | count
  | min
  | max
  | countNonNull
  | median
  | standardDeviation
  | variance
deriving DecidableEq

namespace AggregateFunction

/-- All aggregate functions, in the order of their declaration. -/
def all : List AggregateFunction :=
  [sum, avg, count, min, max, countNonNull, median, standardDeviation, variance]

/-- The name of an aggregate function in schemas and settings. -/
def name : AggregateFunction → String
  | sum => "sum"
  | avg => "avg"
  | count => "count"
  | min => "min"
  | max => "max"
  | countNonNull => "countNonNull"
  | median => "median"
  | standardDeviation => "standardDeviation"
  | variance => "variance"

/-- The name of an aggregate function in displayed expressions and in messages. -/
def displayName : AggregateFunction → String
  | sum => "Sum"
  | avg => "Avg"
  | count => "Count"
  | min => "Min"
  | max => "Max"
  | countNonNull => "CountNonNull"
  | median => "Median"
  | standardDeviation => "StandardDeviation"
  | variance => "Variance"

/-- The aggregate function with a given name. -/
def ofName? (s : String) : Option AggregateFunction :=
  all.find? fun function => function.name == s

end AggregateFunction

end SemanticQuery
