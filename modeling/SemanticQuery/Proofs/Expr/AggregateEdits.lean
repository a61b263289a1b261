import Mathlib.Data.List.Induction
import SemanticQuery.Proofs.Schema.Nesting
import SemanticQuery.Proofs.Validation.SupportedAggregates

/-!
# Editing the aggregation of an expression

The outermost aggregation of an expression is set and removed in the course of editing a query, any
number of times and in any order. Two laws reduce such a course of edits: a function that is set
replaces one that was set before, and removing undoes setting. So all that counts is how often the
aggregation is removed and whether a function is set at the very end. In a nest of aggregations
every removal takes away the outermost function that is left.

No edit touches the base of the nest, so the field behind the expression and the aggregates on offer
stay what they were.
-/

set_option autoImplicit false

namespace SemanticQuery

/-- A change of the outermost aggregation. -/
inductive AggregateEdit where
  | set (function : AggregateFunction)
  | remove

namespace AggregateEdit

/-- The number of removals in a course of edits. -/
def removals (edits : List AggregateEdit) : Nat :=
  edits.countP fun edit => edit matches remove

/-- The function that is set at the end of a course of edits. -/
def finalFunction? (edits : List AggregateEdit) : Option AggregateFunction :=
  match edits.getLast? with
  | some (set function) => some function
  | _ => none

/-- Setting a function removes nothing. -/
theorem removals_concat_set (edits : List AggregateEdit) (function : AggregateFunction) :
    removals (edits ++ [set function]) = removals edits := by
  simp [removals]

/-- A removal at the end is one more. -/
theorem removals_concat_remove (edits : List AggregateEdit) :
    removals (edits ++ [remove]) = removals edits + 1 := by
  simp [removals]

/-- The function that is set last is set at the end. -/
theorem finalFunction?_concat_set (edits : List AggregateEdit) (function : AggregateFunction) :
    finalFunction? (edits ++ [set function]) = some function := by
  simp [finalFunction?]

/-- After a removal no function is set at the end. -/
theorem finalFunction?_concat_remove (edits : List AggregateEdit) :
    finalFunction? (edits ++ [remove]) = none := by
  simp [finalFunction?]

end AggregateEdit

namespace Expr

/-- The expression after setting a function. -/
def withAggregate (function : AggregateFunction) (e : Expr) : Expr :=
  (e.setAggregate function).applyTo e

/-- The expression after removing the outermost aggregation. -/
def withoutAggregate (e : Expr) : Expr :=
  e.removeAggregate.applyTo e

/-- The expression after removing the outermost aggregation a number of times. -/
def withoutAggregates : Nat → Expr → Expr
  | 0, e => e
  | count + 1, e => (withoutAggregates count e).withoutAggregate

/-- The expression after an edit. -/
def afterEdit (e : Expr) : AggregateEdit → Expr
  | .set function => e.withAggregate function
  | .remove => e.withoutAggregate

/-- The expression after a course of edits. -/
def afterEdits (edits : List AggregateEdit) (e : Expr) : Expr :=
  edits.foldl afterEdit e

/-! ## One edit after another -/

/-- At a column or an aggregation the function that is set becomes the outermost one, over what is
left without the present one. -/
theorem withAggregate_eq_aggregation {e : Expr} (function : AggregateFunction)
    (hroot : e.kind = .column ∨ e.kind = .aggregation) :
    e.withAggregate function = aggregation function e.withoutAggregate :=
  setAggregate_applyTo function hroot

/-- What is neither a column nor an aggregation is not aggregated. -/
theorem withAggregate_eq_self {e : Expr} (function : AggregateFunction)
    (hroot : ¬ (e.kind = .column ∨ e.kind = .aggregation)) : e.withAggregate function = e := by
  cases e
  case column => exact absurd (.inl rfl) hroot
  case aggregation => exact absurd (.inr rfl) hroot
  all_goals rfl

/-- Removing undoes setting. -/
theorem withoutAggregate_withAggregate (function : AggregateFunction) (e : Expr) :
    (e.withAggregate function).withoutAggregate = e.withoutAggregate := by
  by_cases hroot : e.kind = .column ∨ e.kind = .aggregation
  · rw [withAggregate_eq_aggregation function hroot]
    rfl
  · rw [withAggregate_eq_self function hroot]

/-- A function that is set replaces the one that was set before. -/
theorem withAggregate_withAggregate (first second : AggregateFunction) (e : Expr) :
    (e.withAggregate first).withAggregate second = e.withAggregate second := by
  by_cases hroot : e.kind = .column ∨ e.kind = .aggregation
  · have hset : (e.withAggregate first).kind = .aggregation := by
      rw [withAggregate_eq_aggregation first hroot, kind]
    rw [withAggregate_eq_aggregation second (.inr hset), withoutAggregate_withAggregate,
      withAggregate_eq_aggregation second hroot]
  · rw [withAggregate_eq_self first hroot]

/-! ## Courses of edits -/

/-- One more edit is made after the others. -/
theorem afterEdits_concat (edits : List AggregateEdit) (edit : AggregateEdit) (e : Expr) :
    e.afterEdits (edits ++ [edit]) = (e.afterEdits edits).afterEdit edit := by
  simp [afterEdits]

/-- **A course of edits comes down to its removals and to a function that is set at the end.** By
induction on the course from its end: the last edit makes a function that was set just before it
irrelevant, whether it replaces or removes it. -/
theorem afterEdits_eq (edits : List AggregateEdit) (e : Expr) :
    e.afterEdits edits =
      match AggregateEdit.finalFunction? edits with
      | some function =>
          (e.withoutAggregates (AggregateEdit.removals edits)).withAggregate function
      | none => e.withoutAggregates (AggregateEdit.removals edits) := by
  induction edits using List.reverseRecOn with
  | nil => rfl
  | append_singleton edits edit ih =>
    rw [afterEdits_concat, ih]
    cases edit with
    | set function =>
      rw [AggregateEdit.finalFunction?_concat_set, AggregateEdit.removals_concat_set]
      split
      · exact withAggregate_withAggregate ..
      · rfl
    | remove =>
      rw [AggregateEdit.finalFunction?_concat_remove, AggregateEdit.removals_concat_remove]
      split
      · exact withoutAggregate_withAggregate ..
      · rfl

/-- Every removal takes away the outermost function of a nest that is left. -/
theorem withoutAggregates_nest {base : Expr} (hbase : base.kind ≠ .aggregation) (count : Nat)
    (functions : List AggregateFunction) :
    (nest functions base).withoutAggregates count = nest (functions.drop count) base := by
  induction count with
  | zero => rfl
  | succ count ih =>
    rw [withoutAggregates, ih, ← List.drop_drop]
    cases functions.drop count with
    | nil =>
      cases base
      case aggregation => exact absurd rfl hbase
      all_goals rfl
    | cons function rest => rfl

/-! ## Fields and aggregates on offer -/

section Fields

variable (provider : Provider)

/-- Setting a function does not change the field. -/
theorem field?_withAggregate (function : AggregateFunction) (e : Expr) :
    (e.withAggregate function).field? provider = e.field? provider := by
  by_cases hroot : e.kind = .column ∨ e.kind = .aggregation
  · rw [withAggregate_eq_aggregation function hroot, field?]
    exact field?_removeAggregate provider e
  · rw [withAggregate_eq_self function hroot]

/-- An edit does not change the field. -/
theorem field?_afterEdit (edit : AggregateEdit) (e : Expr) :
    (e.afterEdit edit).field? provider = e.field? provider := by
  cases edit with
  | set function => exact field?_withAggregate provider function e
  | remove => exact field?_removeAggregate provider e

/-- A course of edits does not change the field. -/
theorem field?_afterEdits (edits : List AggregateEdit) (e : Expr) :
    (e.afterEdits edits).field? provider = e.field? provider := by
  induction edits generalizing e with
  | nil => rfl
  | cons edit edits ih =>
    have hrest : ((e.afterEdit edit).afterEdits edits).field? provider =
        (e.afterEdit edit).field? provider := ih _
    exact hrest.trans (field?_afterEdit provider edit e)

end Fields

/-- **Edits of the aggregation obey their laws.** Of every expression, be it a column, a nest of
aggregations or anything else: setting a function twice comes to setting the second one, removing
after setting comes to removing, and neither setting nor removing changes the field or the
aggregates on offer, however often and in whatever order it is done. -/
theorem aggregate_edits_obey_laws (e : Expr) :
    (∀ first second,
      (e.withAggregate first).withAggregate second = e.withAggregate second) ∧
    (∀ function, (e.withAggregate function).withoutAggregate = e.withoutAggregate) ∧
    ∀ provider,
      (∀ function,
        (e.withAggregate function).field? provider = e.field? provider ∧
        (e.withAggregate function).supportedAggregates provider =
          e.supportedAggregates provider) ∧
      (e.withoutAggregate.field? provider = e.field? provider ∧
        e.withoutAggregate.supportedAggregates provider = e.supportedAggregates provider) ∧
      ∀ edits,
        (e.afterEdits edits).field? provider = e.field? provider ∧
        (e.afterEdits edits).supportedAggregates provider = e.supportedAggregates provider := by
  refine ⟨fun first second => withAggregate_withAggregate first second e,
    fun function => withoutAggregate_withAggregate function e, fun provider => ⟨?_, ?_, ?_⟩⟩
  · intro function
    have hfield := field?_withAggregate provider function e
    exact ⟨hfield, supportedAggregates_congr hfield⟩
  · exact ⟨field?_removeAggregate provider e, supportedAggregates_removeAggregate provider e⟩
  · intro edits
    have hfield := field?_afterEdits provider edits e
    exact ⟨hfield, supportedAggregates_congr hfield⟩

/-- What is left of the average of counts of a column after one removal and two functions set. -/
example (source : Expr) (name : String) :
    (nest [.avg, .count] (.column source name)).afterEdits
        [.set .sum, .remove, .set .max, .set .min] =
      nest [.min] (.column source name) := rfl

end Expr

end SemanticQuery
