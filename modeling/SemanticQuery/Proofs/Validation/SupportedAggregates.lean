import SemanticQuery.Expr.Aggregate
import SemanticQuery.Proofs.Validation.References
import SemanticQuery.Proofs.Validation.Wrapping

/-!
# Supported aggregates

The aggregates that a field supports are the ones to offer when the aggregation of an expression is
set, and the ones that validation accepts. The two agree: setting a function adds a violation
exactly when the function was not to be offered.

The aggregate that a field has by default is found without them. It is a function of the type of the
column, and the column may rule such a function out by a list of its own or as part of the entity
key. In all other cases the default is supported.
-/

set_option autoImplicit false

namespace SemanticQuery

/-! ## Functions that a column rules out -/

namespace Property

/-- A column rules a function out that is missing in the list of its aggregates. Without a list, a
column of the entity key rules out what does not count. -/
def RulesOut (p : Property) (function : AggregateFunction) : Prop :=
  ∃ traits, p.traits = some traits ∧
    ((∃ listed, traits.aggregates = some listed ∧ function ∉ listed) ∨
      traits.aggregates = none ∧ traits.inEntityKey = true ∧
        function ∉ ValueType.countAggregates)

/-- A column supports a function of its type unless it rules the function out. -/
theorem mem_supportedAggregates_iff {p : Property} {function : AggregateFunction}
    (hcolumn : p.kind = .column) (htype : function ∈ p.type.aggregates) :
    function ∈ p.supportedAggregates ↔ ¬ p.RulesOut function := by
  unfold supportedAggregates RulesOut
  rw [hcolumn]
  cases htraits : p.traits with
  | none => simpa using htype
  | some traits =>
    cases haggregates : traits.aggregates with
    | some listed => simp [haggregates]
    | none => cases hkey : traits.inEntityKey <;> simp [haggregates, hkey, htype]

/-- Only a column has a default. -/
theorem kind_eq_column_of_defaultAggregate? {p : Property} {force : Bool}
    {function : AggregateFunction} (h : p.defaultAggregate? force = some function) :
    p.kind = .column := by
  unfold defaultAggregate? at h
  cases hkind : p.kind with
  | measure =>
    rw [hkind] at h
    cases h
  | column => rfl

end Property

namespace Expr

variable (provider : Provider)

/-! ## Defaults -/

/-- **The default of a field is supported unless its column rules it out.** An expression with a
default, forced or not, refers to a column, and the default is one of the supported aggregates
exactly when the column does not rule it out. -/
theorem defaultAggregate?_supported_iff {e : Expr} {force : Bool} {function : AggregateFunction}
    (h : e.defaultAggregate? provider force = some function) :
    ∃ field, e.field? provider = some field ∧ field.property.kind = .column ∧
      (function ∈ e.supportedAggregates provider ↔ ¬ field.property.RulesOut function) := by
  obtain ⟨-, field, hfield, hdefault⟩ := (defaultAggregate?_eq_some_iff provider).1 h
  have hcolumn := Property.kind_eq_column_of_defaultAggregate? hdefault
  have htype := Property.defaultAggregate?_mem_aggregates hdefault
  refine ⟨field, hfield, hcolumn, ?_⟩
  simp only [supportedAggregates, hfield]
  exact Property.mem_supportedAggregates_iff hcolumn htype

/-- A schema with one entity, `Sales`. Of its columns `Amount` says nothing of its own about
aggregates, `ProductId` belongs to the entity key and `Price` lists its aggregates. -/
def pricedSales : Provider := fun name =>
  if name = "s" then
    some ⟨Dictionary.empty.insert "Sales"
      { properties := ((Dictionary.empty.insert "Amount" (Property.column .integer)).insert
          "ProductId" ((Property.column .integer).updateTraits fun traits =>
            { traits with inEntityKey := true })).insert
          "Price" ((Property.column .decimal).updateTraits fun traits =>
            { traits with aggregates := some [.min, .max] }) }⟩
  else none

/-- The default of `Amount` is its sum, which is supported. -/
theorem defaultAggregate?_supported_iff_of_amount :
    (column salesEntity "Amount").defaultAggregate? pricedSales false = some .sum ∧
    .sum ∈ (column salesEntity "Amount").supportedAggregates pricedSales := by
  have hdefault :
      (column salesEntity "Amount").defaultAggregate? pricedSales false = some .sum := by decide
  obtain ⟨field, hfield, -, hsupported⟩ := defaultAggregate?_supported_iff pricedSales hdefault
  refine ⟨hdefault, hsupported.2 ?_⟩
  cases hfield
  rintro ⟨traits, htraits, ⟨listed, hlisted, -⟩ | ⟨-, hkey, -⟩⟩
  · cases htraits
    cases hlisted
  · cases htraits
    cases hkey

/-- The sum is the default of a column of the entity key and of a column that lists other
aggregates, and neither supports it. -/
theorem default_of_restricted_column_is_unsupported :
    ((column salesEntity "ProductId").defaultAggregate? pricedSales false = some .sum ∧
      .sum ∉ (column salesEntity "ProductId").supportedAggregates pricedSales) ∧
    ((column salesEntity "Price").defaultAggregate? pricedSales false = some .sum ∧
      .sum ∉ (column salesEntity "Price").supportedAggregates pricedSales) := by
  refine ⟨⟨?_, ?_⟩, ⟨?_, ?_⟩⟩ <;> decide

/-! ## Setting the aggregation -/

variable (options : ValidationOptions)

/-- A column or an aggregation whose function is set becomes an aggregation of what is left of it
without its function. -/
theorem setAggregate_applyTo {e : Expr} (function : AggregateFunction)
    (hroot : e.kind = .column ∨ e.kind = .aggregation) :
    (e.setAggregate function).applyTo e = aggregation function (e.removeAggregate.applyTo e) := by
  cases e
  case column => rfl
  case aggregation current argument =>
    by_cases hsame : current = function <;>
      simp [setAggregate, removeAggregate, Revision.applyTo, hsame]
  all_goals simp [kind] at hroot

/-- Without its outermost function an expression has the field that it had. -/
theorem field?_removeAggregate (e : Expr) :
    (e.removeAggregate.applyTo e).field? provider = e.field? provider := by
  cases e <;> rfl

/-- Without its function an expression supports what it supported with it. -/
theorem supportedAggregates_removeAggregate (e : Expr) :
    (e.removeAggregate.applyTo e).supportedAggregates provider =
      e.supportedAggregates provider :=
  supportedAggregates_congr (field?_removeAggregate provider e)

/-- **What is offered is what is accepted.** When the function of a column or of an aggregation with
a field is set, the report is that on the expression without its function, and behind it one
violation exactly when the expression does not support the function. -/
theorem violations_setAggregate (function : AggregateFunction) (e : Expr) (field : Field)
    (hroot : e.kind = .column ∨ e.kind = .aggregation)
    (hfield : e.field? provider = some field) :
    ((e.setAggregate function).applyTo e).violations provider options =
      (e.removeAggregate.applyTo e).violations provider options ++
        if function ∈ e.supportedAggregates provider then []
        else [.aggregate function field.name] := by
  rw [setAggregate_applyTo function hroot, violations_aggregation, aggregateViolations,
    field?_removeAggregate, supportedAggregates_removeAggregate, hfield]

/-- The sum of a count of prices. -/
def summedPriceCount : Expr :=
  aggregation .sum (aggregation .count (column salesEntity "Price"))

/-- Of prices only the minimum and the maximum are supported, so in place of the sum of a count of
prices the average is reported. The minimum is not; the count is reported in either case. -/
theorem violations_setAggregate_of_countedPrice :
    ∃ field, summedPriceCount.field? pricedSales = some field ∧
      AggregateFunction.avg ∉ summedPriceCount.supportedAggregates pricedSales ∧
      ((summedPriceCount.setAggregate .avg).applyTo summedPriceCount).violations pricedSales {} =
        [.aggregate .count "Price", .aggregate .avg "Price"] ∧
      AggregateFunction.min ∈ summedPriceCount.supportedAggregates pricedSales ∧
      ((summedPriceCount.setAggregate .min).applyTo summedPriceCount).violations pricedSales {} =
        [.aggregate .count "Price"] := by
  have hname : (summedPriceCount.field? pricedSales).map Field.name = some "Price" := by decide
  obtain ⟨field, hfield, hname⟩ := Option.map_eq_some_iff.1 hname
  refine ⟨field, hfield, by decide, ?_, by decide, ?_⟩
  · rw [violations_setAggregate pricedSales {} .avg _ field (.inr rfl) hfield, hname]
    decide
  · rw [violations_setAggregate pricedSales {} .min _ field (.inr rfl) hfield, hname]
    decide

end Expr

end SemanticQuery
