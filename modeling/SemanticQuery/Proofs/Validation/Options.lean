import Mathlib.Data.List.Flatten
import Mathlib.Data.List.Perm.Basic
import SemanticQuery.Proofs.Validation.References

/-!
# What the options of a validation leave out

An option that is switched off takes one reason for a violation away. Both options are read where a
node is judged, and a judgement that loses its reason says nothing in its place, so two reports that
differ in an option are compared node by node.

Without the check of types exactly the violations about types are missing. With references to
properties in error tolerated, exactly the violations of such references are missing; whatever else
is wrong with a reference is reported as before.
-/

set_option autoImplicit false

namespace SemanticQuery

/-- Tells whether a violation is about the types of two operands. -/
def Violation.isValueType : Violation → Bool
  | valueType _ _ => true
  | _ => false

/-- A bad reference is not about types. -/
@[simp]
theorem PropertyKind.isValueType_badReference (kind : PropertyKind) (entityName name : String) :
    (kind.badReference entityName name).isValueType = false := by
  cases kind <;> rfl

namespace Expr

variable (provider : Provider)

/-! ## The check of types -/

/-- If types are not checked, nothing is wrong with them. -/
theorem typeViolations_unchecked (reject : Bool) (left right : Expr) :
    typeViolations provider ⟨reject, false⟩ left right = [] := by
  unfold typeViolations
  split <;> simp

/-- Whatever is wrong with the types of a pair is about types. -/
theorem isValueType_of_mem_typeViolations {options : ValidationOptions} {left right : Expr}
    {v : Violation} (h : v ∈ typeViolations provider options left right) :
    v.isValueType = true := by
  unfold typeViolations at h
  split at h
  · split at h
    · rw [List.mem_singleton.1 h, Violation.isValueType]
    · cases h
  · cases h

/-- What is wrong with the types of a pair is about types, so nothing is left of it. -/
theorem filter_typeViolations (options : ValidationOptions) (left right : Expr) :
    (typeViolations provider options left right).filter (fun v => !v.isValueType) = [] := by
  rw [List.filter_eq_nil_iff]
  intro v hv
  simp [isValueType_of_mem_typeViolations provider hv]

/-- If types are not checked, what is about types is missing from the report on rows. -/
theorem rowViolations_unchecked (reject : Bool) (arguments : List Expr) (rows : List (List Expr)) :
    rowViolations provider ⟨reject, false⟩ arguments rows =
      (rowViolations provider ⟨reject, true⟩ arguments rows).filter fun v => !v.isValueType := by
  simp only [rowViolations, List.filter_flatMap, filter_typeViolations, typeViolations_unchecked]

/-- If types are not checked, what is about types is missing from the report on a text predicate. -/
theorem textViolations_unchecked (reject : Bool) (predicate : TextPredicate) (left right : Expr) :
    textViolations provider ⟨reject, false⟩ predicate left right =
      (textViolations provider ⟨reject, true⟩ predicate left right).filter
        fun v => !v.isValueType := by
  unfold textViolations
  split
  · rw [filter_typeViolations, typeViolations_unchecked]
  · split <;> split <;> rfl

/-- The report on an entity has nothing about types. -/
theorem filter_entityViolations (schema name : String) :
    (entityViolations provider schema name).filter (fun v => !v.isValueType) =
      entityViolations provider schema name := by
  unfold entityViolations
  split
  · rfl
  · split <;> rfl

/-- The report on a reference to a property has nothing about types. -/
theorem filter_propertyViolations (options : ValidationOptions) (kind : PropertyKind)
    (source : Expr) (name : String) :
    (propertyViolations provider options kind source name).filter (fun v => !v.isValueType) =
      propertyViolations provider options kind source name := by
  unfold propertyViolations
  split
  · split
    · rfl
    · split
      · simp
      · split <;> simp
  · rfl

/-- The report on an aggregation has nothing about types. -/
theorem filter_aggregateViolations (function : AggregateFunction) (e : Expr) :
    (aggregateViolations provider function e).filter (fun v => !v.isValueType) =
      aggregateViolations provider function e := by
  unfold aggregateViolations
  split
  · rfl
  · split <;> rfl

/-- A node that is judged without the check of types keeps what is wrong with it otherwise. -/
theorem ownViolations_unchecked (reject : Bool) (node : Expr) :
    node.ownViolations provider ⟨reject, false⟩ =
      (node.ownViolations provider ⟨reject, true⟩).filter fun v => !v.isValueType := by
  cases node
  case entity schema name localName => exact (filter_entityViolations provider schema name).symm
  case column source name =>
    exact (filter_propertyViolations provider ⟨reject, true⟩ .column source name).symm
  case measure source name =>
    exact (filter_propertyViolations provider ⟨reject, true⟩ .measure source name).symm
  case aggregation function argument =>
    exact (filter_aggregateViolations provider function (.aggregation function argument)).symm
  case compare comparison left right =>
    simp only [ownViolations, filter_typeViolations, typeViolations_unchecked]
  case member arguments rows => exact rowViolations_unchecked provider reject arguments rows
  case contains left right => exact textViolations_unchecked provider reject .contains left right
  case startsWith left right =>
    exact textViolations_unchecked provider reject .startsWith left right
  all_goals rfl

/-! ## References to properties in error -/

/-- A reference to a property that is there and has the kind it is referred to as, but is in error,
with the violation that is reported of it. -/
inductive RefersInError : Expr → Violation → Prop where
  | reference {schema entityName name : String} {localName : Option String} {owner : Entity}
      {p : Property} (howner : provider.entity? schema entityName = some owner)
      (hproperty : owner.property? name = some p) (herror : p.queryable = .error) :
      RefersInError (p.kind.reference (.entity schema entityName localName) name)
        (p.kind.badReference entityName name)

/-- What is wrong with a property that is there and has the given kind, if it is in error. -/
def errorViolations (kind : PropertyKind) : Expr → String → List Violation
  | entity schema entityName _, name =>
      match (provider.entity? schema entityName).bind fun owner => owner.property? name with
      | none => []
      | some p =>
          if p.kind = kind ∧ p.queryable = .error then [kind.badReference entityName name] else []
  | _, _ => []

/-- What is wrong with a node for no other reason than that a property is in error. -/
def ownErrorViolations : Expr → List Violation
  | column source name => errorViolations provider .column source name
  | measure source name => errorViolations provider .measure source name
  | _ => []

/-- What is reported of a reference because a property is in error is the violation of a reference
in error. -/
theorem refersInError_of_mem {kind : PropertyKind} {source : Expr} {name : String} {v : Violation}
    (h : v ∈ errorViolations provider kind source name) :
    RefersInError provider (kind.reference source name) v := by
  unfold errorViolations at h
  split at h
  case h_2 => cases h
  case h_1 schema entityName localName name =>
    split at h
    case h_1 => cases h
    case h_2 p hfound =>
      obtain ⟨owner, howner, hproperty⟩ := Option.bind_eq_some_iff.1 hfound
      split at h
      case isFalse => cases h
      case isTrue herror =>
        obtain ⟨rfl, herror⟩ := herror
        rw [List.mem_singleton.1 h]
        exact .reference howner hproperty herror

/-- The violations of a node for the error of a property are those of a reference to it. -/
theorem mem_ownErrorViolations_iff {node : Expr} {v : Violation} :
    v ∈ node.ownErrorViolations provider ↔ RefersInError provider node v := by
  constructor
  · intro h
    cases node
    case column source name =>
      have hcolumn : v ∈ errorViolations provider .column source name := h
      exact refersInError_of_mem provider hcolumn
    case measure source name =>
      have hmeasure : v ∈ errorViolations provider .measure source name := h
      exact refersInError_of_mem provider hmeasure
    all_goals cases h
  · intro h
    cases h with
    | @reference schema entityName name localName owner p howner hproperty herror =>
      cases hkind : p.kind <;>
        simp [PropertyKind.reference, ownErrorViolations, errorViolations, howner, hproperty,
          herror, hkind]

/-- A tolerated reference has nothing wrong with it that is missing but that its property is in
error. -/
theorem propertyViolations_rejecting (check : Bool) (kind : PropertyKind) (source : Expr)
    (name : String) :
    propertyViolations provider ⟨true, check⟩ kind source name =
      propertyViolations provider ⟨false, check⟩ kind source name ++
        errorViolations provider kind source name := by
  cases source
  case entity schema entityName localName =>
    simp only [propertyViolations, errorViolations]
    cases provider.entity? schema entityName with
    | none => rfl
    | some owner =>
      simp only [Option.bind_some]
      cases owner.property? name with
      | none => rfl
      | some p =>
        by_cases hkind : p.kind = kind
        · cases hqueryable : p.queryable <;> simp [hkind, hqueryable]
        · simp [hkind]
  all_goals rfl

/-- Rejecting properties in error adds to the report on a node what is wrong with it for this reason
alone. -/
theorem ownViolations_rejecting (check : Bool) (node : Expr) :
    node.ownViolations provider ⟨true, check⟩ =
      node.ownViolations provider ⟨false, check⟩ ++ node.ownErrorViolations provider := by
  cases node
  case column source name => exact propertyViolations_rejecting provider check .column source name
  case measure source name =>
    exact propertyViolations_rejecting provider check .measure source name
  all_goals exact (List.append_nil _).symm

/-! ## Two reports -/

/-- **An option that is switched off removes violations, and only those it names.** Without the
check of types the report is the one with it, less the violations about types. If properties in
error are tolerated the report is part of the one in which they are not, in the same order, and
what is missing is what the references to properties in error are reported with. -/
theorem options_remove_what_they_name (e : Expr) :
    (∀ rejectUnqueryable,
      e.violations provider { rejectUnqueryable, checkValueTypes := false } =
        (e.violations provider { rejectUnqueryable, checkValueTypes := true }).filter
          fun v => !v.isValueType) ∧
    ∀ checkValueTypes,
      (e.violations provider { rejectUnqueryable := false, checkValueTypes }).Sublist
        (e.violations provider { rejectUnqueryable := true, checkValueTypes }) ∧
      ∃ removed,
        (e.violations provider { rejectUnqueryable := true, checkValueTypes }).Perm
          (e.violations provider { rejectUnqueryable := false, checkValueTypes } ++ removed) ∧
        ∀ v, v ∈ removed ↔ ∃ node ∈ e.nodes, RefersInError provider node v := by
  refine ⟨fun reject => ?_, fun check => ⟨?_, e.nodes.flatMap (ownErrorViolations provider),
    ?_, fun v => ?_⟩⟩
  · rw [violations_eq_flatMap, violations_eq_flatMap, List.filter_flatMap]
    exact congrArg e.nodes.flatMap (funext (ownViolations_unchecked provider reject))
  · rw [violations_eq_flatMap, violations_eq_flatMap]
    apply List.Sublist.flatMap_right
    intro node _
    rw [ownViolations_rejecting]
    exact List.sublist_append_left _ _
  · have hstrict := congrArg e.nodes.flatMap (funext (ownViolations_rejecting provider check))
    rw [violations_eq_flatMap, violations_eq_flatMap, hstrict]
    exact (List.flatMap_append_perm e.nodes _ _).symm
  · simp only [List.mem_flatMap, mem_ownErrorViolations_iff]

/-- An equation between a column in error and a value of another type has both violations, and each
option removes one of them. -/
example :
    let equation := compare .equal (.column salesEntity "Legacy")
      (.constant (Constant.ofDatum (.integer 1)))
    equation.violations salesByArea {} =
        [.columnReference "Sales" "Legacy", .valueType .text .integer] ∧
      equation.violations salesByArea { checkValueTypes := false } =
        [.columnReference "Sales" "Legacy"] ∧
      equation.violations salesByArea { rejectUnqueryable := false } =
        [.valueType .text .integer] := by
  decide

end Expr

end SemanticQuery
