import SemanticQuery.Proofs.Validation.Report

/-!
# Wrapping an expression in its aggregate

An expression is shown in an aggregate that is chosen by one of three rules: a preferred aggregate,
the default of its field, or the count of present values. Only the first rule asks whether the field
supports the aggregate. The other two follow the declaration and the type of the field, which the
supported aggregates need not: a column may list its aggregates, a column of the entity key supports
counting alone, and a measure supports nothing.

So the report on the wrapped expression is that on the expression itself and, where the chosen
aggregate is not supported, one violation more. For columns that leave their aggregates to their
type the two sides agree and wrapping never adds anything.
-/

set_option autoImplicit false

namespace SemanticQuery

/-! ## What the rules choose -/

namespace ValueType

/-- Every type supports counting the values that are present. -/
theorem countNonNull_mem_aggregates (type : ValueType) : .countNonNull ∈ type.aggregates := by
  cases type <;> decide

/-- The default for a type is one of the aggregates for it. -/
theorem defaultAggregate_mem_aggregates (type : ValueType) :
    type.defaultAggregate ∈ type.aggregates := by
  cases type <;> decide

end ValueType

namespace DeclaredAggregate

/-- Numbers support every function that can be declared as a default. -/
theorem function_mem_numericAggregates {declared : DeclaredAggregate}
    {function : AggregateFunction} (h : declared.function? = some function) :
    function ∈ ValueType.numericAggregates := by
  cases declared <;> cases h <;> decide

end DeclaredAggregate

namespace Property

/-- A column that says nothing of its own about the aggregates it supports. -/
structure LeavesAggregatesToType (p : Property) : Prop where
  column : p.kind = .column
  unlisted : ∀ traits, p.traits = some traits → traits.aggregates = none
  outsideKey : ∀ traits, p.traits = some traits → traits.inEntityKey = false

/-- Such a column supports the aggregates of its type. -/
theorem LeavesAggregatesToType.supportedAggregates_eq {p : Property}
    (h : p.LeavesAggregatesToType) : p.supportedAggregates = p.type.aggregates := by
  unfold supportedAggregates
  rw [h.column]
  cases htraits : p.traits with
  | none => rfl
  | some traits =>
    simp only [h.unlisted traits htraits, h.outsideKey traits htraits, Bool.false_eq_true, if_false]

/-- The default of a column is one of the aggregates of its type: a declared function is the default
of a number only, and every type supports its own default. -/
theorem defaultAggregate?_mem_aggregates {p : Property} {force : Bool}
    {function : AggregateFunction} (h : p.defaultAggregate? force = some function) :
    function ∈ p.type.aggregates := by
  unfold defaultAggregate? at h
  cases hkind : p.kind with
  | measure =>
    rw [hkind] at h
    cases h
  | column =>
    simp only [hkind] at h
    by_cases hchosen : (p.type.isNumeric && p.declaredAggregate != .suppressed) = true
    · have hnumber : p.type.isNumeric = true := (Bool.and_eq_true _ _ ▸ hchosen).1
      have haggregates : p.type.aggregates = ValueType.numericAggregates := by
        rw [ValueType.aggregates, if_pos hnumber]
      rw [if_pos hchosen, Option.isNone_some, Bool.false_and, if_neg Bool.false_ne_true] at h
      cases hdeclared : p.declaredAggregate.function? with
      | some declared =>
        rw [hdeclared, Option.getD_some] at h
        cases h
        rw [haggregates]
        exact DeclaredAggregate.function_mem_numericAggregates hdeclared
      | none =>
        rw [hdeclared, Option.getD_none] at h
        cases h
        exact p.type.defaultAggregate_mem_aggregates
    · rw [if_neg hchosen, Option.isNone_none, Bool.true_and] at h
      split at h
      case isTrue =>
        cases h
        exact p.type.defaultAggregate_mem_aggregates
      case isFalse => cases h

end Property

namespace Expr

variable (provider : Provider) (aggregation : AggregationOptions)

/-- The aggregate that is chosen for lack of a preferred one: the default of the expression, or the
count of present values if fields without a default are to be aggregated. -/
def IsFallback (e : Expr) (function : AggregateFunction) : Prop :=
  e.defaultAggregate? provider false = some function ∨
    e.defaultAggregate? provider false = none ∧ aggregation.aggregateNonNumericFields = true ∧
      function = .countNonNull

/-- A chosen aggregate is a preferred one that is supported, or a fallback. -/
theorem chosenAggregate?_cases {e : Expr} {function : AggregateFunction}
    (h : e.chosenAggregate? provider aggregation = some function) :
    function ∈ e.supportedAggregates provider ∨ e.IsFallback provider aggregation function := by
  unfold chosenAggregate? at h
  cases hpreferred : aggregation.preferred.filter (e.supportsAggregate provider) with
  | some preferred =>
    rw [hpreferred] at h
    cases h
    have hsupports := (Option.filter_eq_some_iff.1 hpreferred).2
    exact .inl (List.contains_iff_mem.1 hsupports)
  | none =>
    simp only [hpreferred] at h
    cases hdefault : e.defaultAggregate? provider false with
    | some default =>
      rw [hdefault] at h
      exact .inr (.inl (hdefault.trans h))
    | none =>
      simp only [hdefault] at h
      split at h
      case isFalse => cases h
      case isTrue hfields =>
        cases h
        exact .inr (.inr ⟨hdefault, hfields, rfl⟩)

/-- The default of an expression is that of its field; an aggregation has none. -/
theorem defaultAggregate?_eq_some_iff {e : Expr} {force : Bool} {function : AggregateFunction} :
    e.defaultAggregate? provider force = some function ↔
      e.kind ≠ .aggregation ∧ ∃ field, e.field? provider = some field ∧
        field.property.defaultAggregate? force = some function := by
  cases e <;> simp [defaultAggregate?, kind, Option.bind_eq_some_iff]

/-- A column that leaves its aggregates to its type supports whatever is chosen for it. -/
theorem chosenAggregate?_mem_supportedAggregates {e : Expr} {field : Field}
    {function : AggregateFunction} (hfield : e.field? provider = some field)
    (hproperty : field.property.LeavesAggregatesToType)
    (h : e.chosenAggregate? provider aggregation = some function) :
    function ∈ e.supportedAggregates provider := by
  rcases chosenAggregate?_cases provider aggregation h with hsupported | hfallback
  · exact hsupported
  · simp only [supportedAggregates, hfield, hproperty.supportedAggregates_eq]
    rcases hfallback with hdefault | ⟨-, -, rfl⟩
    · obtain ⟨-, found, hfound, hdefault⟩ := (defaultAggregate?_eq_some_iff provider).1 hdefault
      obtain rfl : field = found := Option.some.inj (hfield.symm.trans hfound)
      exact Property.defaultAggregate?_mem_aggregates hdefault
    · exact ValueType.countNonNull_mem_aggregates _

/-! ## The report on the wrapped expression -/

/-- An aggregation has the field of its argument, so it is judged as its argument would be. -/
theorem aggregateViolations_aggregation (function applied : AggregateFunction) (e : Expr) :
    aggregateViolations provider function (.aggregation applied e) =
      aggregateViolations provider function e := rfl

/-- The report on an aggregation is that on its argument and what is wrong with the function. -/
theorem violations_aggregation (validation : ValidationOptions) (function : AggregateFunction)
    (e : Expr) :
    (Expr.aggregation function e).violations provider validation =
      e.violations provider validation ++ aggregateViolations provider function e := by
  rw [violations_eq_flatMap, violations_eq_flatMap, nodes, List.flatMap_append,
    List.flatMap_singleton, ownViolations, aggregateViolations_aggregation]

/-- What is wrong with the aggregate that is chosen for an expression. -/
def choiceViolations (e : Expr) : List Violation :=
  match e.chosenAggregate? provider aggregation with
  | none => []
  | some function => aggregateViolations provider function e

/-- Something is wrong with a chosen aggregate exactly when there is a field that does not support
it. -/
theorem choiceViolations_cases (e : Expr) :
    e.choiceViolations provider aggregation = [] ∧
        (∀ function, e.chosenAggregate? provider aggregation = some function →
          (e.field? provider).isSome = true → function ∈ e.supportedAggregates provider) ∨
      ∃ function field, e.chosenAggregate? provider aggregation = some function ∧
        e.field? provider = some field ∧ function ∉ e.supportedAggregates provider ∧
        e.choiceViolations provider aggregation = [.aggregate function field.name] := by
  unfold choiceViolations aggregateViolations
  cases hchosen : e.chosenAggregate? provider aggregation with
  | none => exact .inl ⟨rfl, fun _ h => by cases h⟩
  | some function =>
    cases hfield : e.field? provider with
    | none => exact .inl ⟨rfl, fun _ _ h => by cases h⟩
    | some field =>
      by_cases hsupported : function ∈ e.supportedAggregates provider
      · refine .inl ⟨if_pos hsupported, fun other hother _ => ?_⟩
        cases hother
        exact hsupported
      · exact .inr ⟨function, field, rfl, rfl, hsupported, if_neg hsupported⟩

/-- The report on the wrapped expression. -/
theorem violations_applyTo_aggregated (validation : ValidationOptions) (e : Expr) :
    ((e.aggregated provider aggregation).applyTo e).violations provider validation =
      e.violations provider validation ++ e.choiceViolations provider aggregation := by
  unfold aggregated choiceViolations
  cases e.chosenAggregate? provider aggregation with
  | none => exact (List.append_nil _).symm
  | some function => exact violations_aggregation provider validation function e

/-- **Wrapping adds at most the choice of an unsupported aggregate.** The report on the wrapped
expression is the report on the expression, or it has one violation more: that the field of the
expression does not support the aggregate it was wrapped in. This happens exactly when there is a
field and it does not support the chosen aggregate; and then the aggregate was not preferred but a
fallback, and the field is a measure, lists its aggregates or belongs to the entity key. -/
theorem aggregated_adds_unsupported_fallback (validation : ValidationOptions) (e : Expr) :
    ((e.aggregated provider aggregation).applyTo e).violations provider validation =
        e.violations provider validation ∧
        (∀ function, e.chosenAggregate? provider aggregation = some function →
          (e.field? provider).isSome = true → function ∈ e.supportedAggregates provider) ∨
      ∃ function field, e.chosenAggregate? provider aggregation = some function ∧
        e.field? provider = some field ∧ function ∉ e.supportedAggregates provider ∧
        ((e.aggregated provider aggregation).applyTo e).violations provider validation =
          e.violations provider validation ++ [.aggregate function field.name] ∧
        e.IsFallback provider aggregation function ∧
        ¬ field.property.LeavesAggregatesToType := by
  rw [violations_applyTo_aggregated]
  rcases e.choiceViolations_cases provider aggregation with
    ⟨hnone, hsupported⟩ | ⟨function, field, hchosen, hfield, hunsupported, hone⟩
  · exact .inl ⟨by rw [hnone, List.append_nil], hsupported⟩
  · refine .inr ⟨function, field, hchosen, hfield, hunsupported, by rw [hone], ?_, ?_⟩
    · exact (chosenAggregate?_cases provider aggregation hchosen).resolve_left hunsupported
    · intro hproperty
      exact hunsupported
        (chosenAggregate?_mem_supportedAggregates provider aggregation hfield hproperty hchosen)

/-- A schema with one entity, `Sales`, whose only column is an integer of the entity key. -/
def keyedSales : Provider := fun name =>
  if name = "s" then
    some ⟨Dictionary.empty.insert "Sales"
      { properties := Dictionary.empty.insert "ProductId"
          { kind := .column, type := .integer, traits := some { inEntityKey := true } } }⟩
  else none

/-- The column of the entity key is in order, but wrapped in the sum that is its default it is
not. -/
theorem aggregated_sum_of_key_is_reported :
    ∃ v ∈ (((column (.entity "s" "Sales" none) "ProductId").aggregated keyedSales {}).applyTo
        (column (.entity "s" "Sales" none) "ProductId")).violations keyedSales {},
      v ∉ (column (.entity "s" "Sales" none) "ProductId").violations keyedSales {} := by
  refine ⟨.aggregate .sum "ProductId", ?_, ?_⟩
  · decide
  · decide

end Expr

end SemanticQuery
