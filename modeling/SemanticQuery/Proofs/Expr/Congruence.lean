import SemanticQuery.Expr.Aggregate
import SemanticQuery.Proofs.Expr.LocalNames
import SemanticQuery.Proofs.Expr.RowIdentity
import SemanticQuery.Proofs.Validation.Report
import SemanticQuery.Proofs.Validation.Grouping

/-!
# Equal expressions are interchangeable

Equality looks past local names that only one side has, past the values of constants, and with
`ignoreCase` past the case of their texts. None of this is seen by anything that is computed from an
expression: the field behind it, what a schema tells about it, the aggregates on offer, the keys to
group by and those of a row identity, the report of a validation. Revisions of equal expressions
lead to equal expressions.

Where a computation looks at a few levels of the expression only, the rule by which two expressions
are equal is split as deep as that; where it walks the whole expression, the statement is proved by
induction. A validation is followed through the list of nodes: equal expressions have pairwise
equal nodes, and the same is wrong with equal nodes.
-/

set_option autoImplicit false

namespace SemanticQuery.Expr

variable {ignoreCase : Bool} {x y : Expr}

namespace Equal

/-! ## Fields -/

section Fields

variable (provider : Provider)

/-- Equal expressions name the same entity. -/
theorem namedEntity?_eq (h : Equal ignoreCase x y) :
    x.namedEntity? provider = y.namedEntity? provider := by
  cases h <;> rfl

/-- Equal expressions give access to the hierarchies of the same entity. -/
theorem hierarchyOwner?_eq (h : Equal ignoreCase x y) :
    x.hierarchyOwner? provider = y.hierarchyOwner? provider := by
  cases h with
  | variation name property hsource => cases hsource <;> rfl
  | _ => rfl

/-- **Equal expressions refer to the same field.** -/
theorem field?_eq (h : Equal ignoreCase x y) : x.field? provider = y.field? provider := by
  induction x generalizing y with
  | column source name =>
    cases h with
    | column _ hsource => rw [field?, field?, hsource.namedEntity?_eq]
  | measure source name =>
    cases h with
    | measure _ hsource => rw [field?, field?, hsource.namedEntity?_eq]
  | aggregation function argument ih =>
    cases h with
    | aggregation _ hargument => rw [field?, field?, ih hargument]
  | level source name =>
    cases h with
    | level _ hsource =>
      cases hsource with
      | hierarchy _ howner => rw [field?, field?, howner.hierarchyOwner?_eq]
      | _ => rfl
  | _ =>
    cases h
    rfl

/-- Equal expressions have the same description. -/
theorem metadata?_eq (h : Equal ignoreCase x y) :
    x.metadata? provider = y.metadata? provider := by
  induction x generalizing y
  -- A constant is described by its type alone; its value and its spelling do not count.
  case constant =>
    cases h with
    | constant hvalue => rw [metadata?, metadata?, Constant.type_eq_of_equals hvalue]
  case aggregation ih =>
    cases h with
    | aggregation _ hargument => rw [metadata?, metadata?, ih hargument]
  all_goals
    have hfield := h.field?_eq provider
    cases h
    simp only [metadata?, hfield]

/-- The fields of equal expressions support the same aggregates. -/
theorem supportedAggregates_eq (h : Equal ignoreCase x y) :
    x.supportedAggregates provider = y.supportedAggregates provider :=
  supportedAggregates_congr (h.field?_eq provider)

/-- Equal expressions have the same default aggregate. -/
theorem defaultAggregate?_eq (h : Equal ignoreCase x y) (force : Bool) :
    x.defaultAggregate? provider force = y.defaultAggregate? provider force := by
  have hfield := h.field?_eq provider
  cases h with
  | aggregation => rfl
  | _ => simp only [defaultAggregate?, hfield]

/-- Equal expressions are shown with the same aggregate. -/
theorem chosenAggregate?_eq (h : Equal ignoreCase x y) (options : AggregationOptions) :
    x.chosenAggregate? provider options = y.chosenAggregate? provider options :=
  chosenAggregate?_congr (h.supportedAggregates_eq provider) (h.defaultAggregate?_eq provider false)
    options

/-- The expressions to group by are equal pairwise. -/
theorem groupingKeys (h : Equal ignoreCase x y) :
    List.Forall₂ (Equal ignoreCase) (x.groupingKeys provider) (y.groupingKeys provider) := by
  have hself : List.Forall₂ (Equal ignoreCase) [x] [y] := List.Forall₂.cons h List.Forall₂.nil
  have hfield := h.field?_eq provider
  cases h with
  | @column name source source' hsource =>
    have hkeys : (Expr.column source name).declaredKeys provider =
        (Expr.column source' name).declaredKeys provider := by
      rw [declaredKeys, hfield]
      rfl
    rw [groupingKeys_column, groupingKeys_column, ← hkeys]
    split
    · exact hself
    · rw [List.forall₂_map_left_iff, List.forall₂_map_right_iff, List.forall₂_same]
      intro key _
      exact .column key hsource
  | _ => exact hself

end Fields

/-! ## Validation -/

section Judgements

variable (provider : Provider) (options : ValidationOptions)

/-- A function applied in equal expressions is judged alike. -/
theorem aggregateViolations_eq (h : Equal ignoreCase x y) (function : AggregateFunction) :
    aggregateViolations provider function x = aggregateViolations provider function y := by
  rw [aggregateViolations, aggregateViolations, h.field?_eq, h.supportedAggregates_eq]

/-- The types of equal operands are judged alike. -/
theorem typeViolations_eq {x' y' : Expr} (h : Equal ignoreCase x y) (h' : Equal ignoreCase x' y') :
    typeViolations provider options x x' = typeViolations provider options y y' := by
  rw [typeViolations, typeViolations, h.metadata?_eq, h'.metadata?_eq]

/-- Equal rows are judged alike. -/
theorem rowViolations_eq {arguments arguments' : List Expr} {rows rows' : List (List Expr)}
    (h : List.Forall₂ (Equal ignoreCase) arguments arguments')
    (h' : List.Forall₂ (List.Forall₂ (Equal ignoreCase)) rows rows') :
    rowViolations provider options arguments rows =
      rowViolations provider options arguments' rows' := by
  refine flatMap_eq_of_forall₂ h' fun row row' hrow => ?_
  refine flatMap_eq_of_forall₂ (forall₂_zip_zip h hrow) fun pair pair' hpair => ?_
  exact hpair.1.typeViolations_eq provider options hpair.2

/-- Equal operands suit a text predicate alike. -/
theorem textViolations_eq {x' y' : Expr} (predicate : TextPredicate) (h : Equal ignoreCase x y)
    (h' : Equal ignoreCase x' y') :
    textViolations provider options predicate x x' =
      textViolations provider options predicate y y' := by
  have hkind : x.kind = y.kind := by
    cases h <;> rfl
  have hconstant : x'.constantType? = y'.constantType? := by
    cases h' with
    | constant hvalue => exact congrArg some (Constant.type_eq_of_equals hvalue)
    | _ => rfl
  rw [textViolations, textViolations, hkind, hconstant, h.typeViolations_eq provider options h']

/-- **The same is wrong with equal nodes.** -/
theorem ownViolations_eq (h : Equal ignoreCase x y) :
    x.ownViolations provider options = y.ownViolations provider options := by
  have haggregate := h.aggregateViolations_eq provider
  cases h with
  | column name hsource => cases hsource <;> rfl
  | measure name hsource => cases hsource <;> rfl
  | aggregation function _ => exact haggregate function
  | compare _ hleft hright => exact hleft.typeViolations_eq provider options hright
  | member harguments hrows => exact rowViolations_eq provider options harguments hrows
  | contains hleft hright => exact hleft.textViolations_eq provider options .contains hright
  | startsWith hleft hright => exact hleft.textViolations_eq provider options .startsWith hright
  | _ => rfl

/-- Validations of equal expressions report the same. -/
theorem validateFrom_eq (h : Equal ignoreCase x y) (found : List Violation) :
    x.validateFrom provider options found = y.validateFrom provider options found := by
  apply validateFrom_congr
  exact flatMap_eq_of_forall₂ h.nodes fun _ _ hnode => hnode.ownViolations_eq provider options

end Judgements

/-! ## Row identities -/

/-- The keys of equal expressions are both absent or equal pairwise. -/
theorem identityKeys? (h : Equal ignoreCase x y) :
    Option.Rel (List.Forall₂ (Equal ignoreCase)) x.identityKeys? y.identityKeys? := by
  exact optionRel_map h.identityParts? fun _ _ hparts => hparts.keys

/-- The memberships of equal expressions are both absent or equal. -/
theorem identityMembership? (h : Equal ignoreCase x y) :
    Option.Rel (Equal ignoreCase) x.identityMembership? y.identityMembership? := by
  refine optionRel_map h.identityParts? fun _ _ hparts => ?_
  exact .member hparts.keys (List.Forall₂.cons hparts.values List.Forall₂.nil)

/-! ## Revisions -/

/-- Revisions that both keep, or lead to equal expressions, lead from equal expressions to equal
ones. -/
theorem applyTo {revision revision' : Revision} (h : Equal ignoreCase x y)
    (hrevision : Option.Rel (Equal ignoreCase) revision revision') :
    Equal ignoreCase (revision.applyTo x) (revision'.applyTo y) := by
  cases hrevision with
  | none => exact h
  | some hnew => exact hnew

/-- Setting the aggregate of equal expressions leads to equal ones. -/
theorem setAggregate (h : Equal ignoreCase x y) (function : AggregateFunction) :
    Option.Rel (Equal ignoreCase) (x.setAggregate function) (y.setAggregate function) := by
  cases h with
  | column name hsource => exact Option.Rel.some (.aggregation function (.column name hsource))
  | aggregation current hargument =>
    unfold Expr.setAggregate
    dsimp only
    split
    · exact Option.Rel.none
    · exact Option.Rel.some (.aggregation function hargument)
  | _ => exact Option.Rel.none

/-- Taking away the aggregation of equal expressions leads to equal ones. -/
theorem removeAggregate (h : Equal ignoreCase x y) :
    Option.Rel (Equal ignoreCase) x.removeAggregate y.removeAggregate := by
  cases h with
  | aggregation _ hargument => exact Option.Rel.some hargument
  | _ => exact Option.Rel.none

/-- Equal expressions are wrapped in the same aggregation or both in none. -/
theorem aggregated (h : Equal ignoreCase x y) (provider : Provider) (options : AggregationOptions) :
    Option.Rel (Equal ignoreCase) (x.aggregated provider options)
      (y.aggregated provider options) := by
  unfold Expr.aggregated
  rw [← h.chosenAggregate?_eq]
  cases x.chosenAggregate? provider options with
  | none => exact Option.Rel.none
  | some function => exact Option.Rel.some (.aggregation function h)

/-- Dropping the local names of equal expressions leads to equal ones. -/
theorem withoutLocalNames (h : Equal ignoreCase x y) :
    Equal ignoreCase (x.withoutLocalNames.applyTo x) (y.withoutLocalNames.applyTo y) := by
  rw [withoutLocalNames_applyTo, withoutLocalNames_applyTo]
  exact h.mapLeaves_anonymous

end Equal

/-- Expressions that may be absent are compared by their presence and then as expressions. -/
theorem equalsOptional_of_rel {x y : Option Expr} (h : Option.Rel (Equal ignoreCase) x y) :
    equalsOptional ignoreCase x y = true := by
  cases h with
  | none => rfl
  | some hequal => exact hequal.equals

/-- **Equal expressions are interchangeable.** Whatever the schema and the options, validation
reports the same violations in the same order for both; both have the same field, description,
supported aggregates and default aggregate; the keys to group by, the keys and the membership of a
row identity, and the outcomes of all revisions are equal again, with or without regard to case as
the expressions are. -/
theorem equals_congruence (x y : Expr) (hequals : equals ignoreCase x y = true) :
    (∀ provider options found, (x.validateFrom provider options found).2 =
      (y.validateFrom provider options found).2) ∧
    (∀ provider, x.field? provider = y.field? provider ∧
      x.metadata? provider = y.metadata? provider ∧
      x.supportedAggregates provider = y.supportedAggregates provider ∧
      (∀ force, x.defaultAggregate? provider force = y.defaultAggregate? provider force) ∧
      equalsAll ignoreCase (x.groupingKeys provider) (y.groupingKeys provider) = true) ∧
    Option.Rel (fun keys keys' => equalsAll ignoreCase keys keys' = true)
      x.identityKeys? y.identityKeys? ∧
    equalsOptional ignoreCase x.identityMembership? y.identityMembership? = true ∧
    (∀ function, equals ignoreCase ((x.setAggregate function).applyTo x)
      ((y.setAggregate function).applyTo y) = true) ∧
    equals ignoreCase (x.removeAggregate.applyTo x) (y.removeAggregate.applyTo y) = true ∧
    equals ignoreCase (x.withoutLocalNames.applyTo x) (y.withoutLocalNames.applyTo y) = true ∧
    (∀ provider options, equals ignoreCase ((x.aggregated provider options).applyTo x)
      ((y.aggregated provider options).applyTo y) = true) := by
  have h : Equal ignoreCase x y := Equal.of_equals hequals
  refine ⟨?_, ?_, ?_, ?_, ?_, ?_, ?_, ?_⟩
  · intro provider options found
    rw [h.validateFrom_eq]
  · intro provider
    refine ⟨h.field?_eq provider, h.metadata?_eq provider, h.supportedAggregates_eq provider,
      h.defaultAggregate?_eq provider, ?_⟩
    rw [equalsAll_iff]
    exact h.groupingKeys provider
  · exact optionRel_imp h.identityKeys? fun keys keys' => (equalsAll_iff keys keys').2
  · exact equalsOptional_of_rel h.identityMembership?
  · intro function
    exact (h.applyTo (h.setAggregate function)).equals
  · exact (h.applyTo h.removeAggregate).equals
  · exact h.withoutLocalNames.equals
  · intro provider options
    exact (h.applyTo (h.aggregated provider options)).equals

/-- The equation of a region with a text, where the entity may carry a local name. -/
def regionEquation (localName : Option String) (text : String) : Expr :=
  .compare .equal (.column (.entity "s" "Sales" localName) "Region")
    (.constant (Constant.ofDatum (.text text)))

/-- Two equations that differ in a local name and in the case of a text are reported on alike. -/
theorem equals_congruence_of_region :
    equals true (regionEquation (some "a") "West") (regionEquation none "WEST") = true ∧
    ∀ provider options found,
      ((regionEquation (some "a") "West").validateFrom provider options found).2 =
        ((regionEquation none "WEST").validateFrom provider options found).2 := by
  have hequals : equals true (regionEquation (some "a") "West") (regionEquation none "WEST") =
      true := by decide
  exact ⟨hequals, (equals_congruence _ _ hequals).1⟩

end SemanticQuery.Expr
