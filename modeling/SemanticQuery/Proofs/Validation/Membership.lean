import Mathlib.Data.List.Perm.Basic
import SemanticQuery.Proofs.Expr.Congruence
import SemanticQuery.Proofs.Predicate.Disjunction
import SemanticQuery.Proofs.Validation.References

/-!
# What a validation reports on memberships

A membership is judged differently from the predicates that it stands for. A row identity judges
each equation behind its operands; the membership that is made of it has all keys first, then all
constants, and only then the types of the pairs. Constants have nothing wrong with them, so the two
reports consist of the same violations in different order.

A disjunction that merges two memberships drops the arguments of the right one and judges its rows
against those of the left one. Equal arguments are reported on alike and have the same types, so
nothing is lost but the repetition of what is wrong with the arguments.
-/

set_option autoImplicit false

namespace SemanticQuery.Expr

variable (provider : Provider) (options : ValidationOptions)

/-! ## Reports and children -/

/-- The report on an expression is that on its children and then what is wrong with its root. -/
theorem violations_eq_children (e : Expr) :
    e.violations provider options =
      e.children.flatMap (violations provider options) ++ e.ownViolations provider options := by
  have hchildren : (e.children.flatMap nodes).flatMap (ownViolations provider options) =
      e.children.flatMap (violations provider options) := by
    rw [List.flatMap_assoc]
    exact congrArg e.children.flatMap (funext fun child =>
      (violations_eq_flatMap provider options child).symm)
  rw [violations_eq_flatMap, nodes_eq_children, List.flatMap_append, hchildren,
    List.flatMap_singleton]

/-- A conjunction is reported on as its two sides, one after the other. -/
theorem violations_and (left right : Expr) :
    (and left right).violations provider options =
      left.violations provider options ++ right.violations provider options := by
  have hown : (and left right).ownViolations provider options = [] := rfl
  rw [violations_eq_children, children, List.flatMap_cons, List.flatMap_singleton, hown,
    List.append_nil]

/-- A plain disjunction is reported on as its two sides, one after the other. -/
theorem violations_or (left right : Expr) :
    (or left right).violations provider options =
      left.violations provider options ++ right.violations provider options := by
  have hown : (or left right).ownViolations provider options = [] := rfl
  rw [violations_eq_children, children, List.flatMap_cons, List.flatMap_singleton, hown,
    List.append_nil]

/-- Nothing is wrong with a constant. -/
theorem violations_constant (value : Constant) :
    (constant value).violations provider options = [] := by
  have hown : (constant value).ownViolations provider options = [] := rfl
  rw [violations_eq_children, children, List.flatMap_nil, hown, List.append_nil]

/-- A comparison is reported on as its two sides and then for their types. -/
theorem violations_compare (comparison : Comparison) (left right : Expr) :
    (compare comparison left right).violations provider options =
      left.violations provider options ++ right.violations provider options ++
        typeViolations provider options left right := by
  rw [violations_eq_children, children, List.flatMap_cons, List.flatMap_singleton, ownViolations]

/-- A membership is reported on as its arguments, its entries row by row, and then for the types of
the rows. -/
theorem violations_member (arguments : List Expr) (rows : List (List Expr)) :
    (member arguments rows).violations provider options =
      arguments.flatMap (violations provider options) ++
        rows.flatten.flatMap (violations provider options) ++
          rowViolations provider options arguments rows := by
  rw [violations_eq_children, children, List.flatMap_append, ownViolations]

/-! ## Row identities -/

/-- The report on an identity goes from equation to equation, and has what is wrong with a key
before what is wrong with the types of the key and its constant. -/
theorem Identity.violations_eq {e : Expr} {equations : List (Expr × Constant)}
    (h : Identity e equations) :
    e.violations provider options = equations.flatMap fun equation =>
      equation.1.violations provider options ++
        typeViolations provider options equation.1 (.constant equation.2) := by
  induction h with
  | equation hkey value =>
    rw [violations_compare, violations_constant, List.append_nil, List.flatMap_singleton]
  | and _ _ ihleft ihright => rw [violations_and, ihleft, ihright, List.flatMap_append]

/-- The report on the membership of some equations has all keys before the types of the pairs. -/
theorem violations_membership (equations : List (Expr × Constant)) :
    (member (keysOf equations) [valuesOf equations]).violations provider options =
      (equations.flatMap fun equation => equation.1.violations provider options) ++
        equations.flatMap fun equation =>
          typeViolations provider options equation.1 (.constant equation.2) := by
  have hkeys : (keysOf equations).flatMap (violations provider options) =
      equations.flatMap fun equation => equation.1.violations provider options := by
    rw [keysOf, List.flatMap_map]
  have hvalues : [valuesOf equations].flatten.flatMap (violations provider options) = [] := by
    rw [List.flatten_singleton, valuesOf, List.flatMap_map, List.flatMap_eq_nil_iff]
    intro equation _
    exact violations_constant provider options equation.2
  have htypes : rowViolations provider options (keysOf equations) [valuesOf equations] =
      equations.flatMap fun equation =>
        typeViolations provider options equation.1 (.constant equation.2) := by
    rw [rowViolations, List.flatMap_singleton, keysOf, valuesOf, List.zip_map', List.flatMap_map]
  rw [violations_member, hkeys, hvalues, htypes, List.append_nil]

/-- **Extracting an identity neither hides nor invents violations.** An identity has a membership,
and whatever the schema and the options, the reports on the two consist of the same violations with
the same multiplicities. -/
theorem violations_identityMembership_perm (e : Expr) (hidentity : e.identityKeys?.isSome = true) :
    ∃ filter, e.identityMembership? = some filter ∧ ∀ provider options,
      (filter.violations provider options).Perm (e.violations provider options) ∧
      (filter.violations provider options = [] ↔ e.violations provider options = []) := by
  obtain ⟨equations, h⟩ := (identityKeys?_isSome_iff e).1 hidentity
  refine ⟨member (keysOf equations) [valuesOf equations], ?_, fun provider options => ?_⟩
  · rw [identityMembership?, h.identityParts?, Option.map_some]
  · have hperm : ((member (keysOf equations) [valuesOf equations]).violations provider
        options).Perm (e.violations provider options) := by
      rw [violations_membership, h.violations_eq]
      exact List.flatMap_append_perm equations _ _
    refine ⟨hperm, fun hfilter => ?_, fun hclean => ?_⟩
    · rw [hfilter] at hperm
      exact hperm.symm.eq_nil
    · rw [hclean] at hperm
      exact hperm.eq_nil

/-- An identity whose first key has another type than its constant, and whose second key is no
column of `Sales`. -/
def regionAndUnknown : Expr :=
  .and (.compare .equal (.column salesEntity "Region") (ofDatum (.integer 1)))
    (.compare .equal (.column salesEntity "Unknown") (ofDatum (.text "x")))

/-- The membership has the two violations of the identity the other way round. -/
theorem violations_identityMembership_perm_of_regionAndUnknown :
    regionAndUnknown.identityKeys?.isSome = true ∧
    regionAndUnknown.violations salesByArea {} =
      [.valueType .text .integer, .columnReference "Sales" "Unknown"] ∧
    ∃ filter, regionAndUnknown.identityMembership? = some filter ∧
      (filter.violations salesByArea {}).Perm
        [.valueType .text .integer, .columnReference "Sales" "Unknown"] := by
  have hidentity : regionAndUnknown.identityKeys?.isSome = true := rfl
  have hreport : regionAndUnknown.violations salesByArea {} =
      [.valueType .text .integer, .columnReference "Sales" "Unknown"] := by decide
  obtain ⟨filter, hfilter, hperm⟩ := violations_identityMembership_perm _ hidentity
  have hmembership := (hperm salesByArea {}).1
  rw [hreport] at hmembership
  exact ⟨hidentity, hreport, filter, hfilter, hmembership⟩

/-! ## Disjunctions -/

/-- The report on a merged membership is made of the reports on the two memberships, with what is
wrong with the arguments said once instead of twice. -/
theorem violations_merged_perm {arguments arguments' : List Expr} (rows rows' : List (List Expr))
    (hequal : equalsAll false arguments arguments' = true) :
    ((member arguments (rows ++ rows')).violations provider options ++
        arguments.flatMap (violations provider options)).Perm
      ((member arguments rows).violations provider options ++
        (member arguments' rows').violations provider options) := by
  have hpairs := (equalsAll_iff arguments arguments').1 hequal
  have harguments : arguments'.flatMap (violations provider options) =
      arguments.flatMap (violations provider options) :=
    (flatMap_eq_of_forall₂ hpairs fun x y hxy => congrArg Prod.snd
      (hxy.validateFrom_eq provider options [])).symm
  have hrows : rowViolations provider options arguments' rows' =
      rowViolations provider options arguments rows' := by
    have hself : List.Forall₂ (List.Forall₂ (Equal false)) rows' rows' :=
      List.forall₂_same.2 fun row _ => List.forall₂_same.2 fun entry _ => Equal.refl entry
    exact (Equal.rowViolations_eq provider options hpairs hself).symm
  have happend : rowViolations provider options arguments (rows ++ rows') =
      rowViolations provider options arguments rows ++
        rowViolations provider options arguments rows' := by
    rw [rowViolations, List.flatMap_append, rowViolations, rowViolations]
  rw [violations_member, violations_member, violations_member, harguments, hrows, happend,
    List.flatten_append, List.flatMap_append, List.perm_iff_count]
  intro v
  simp only [List.count_append]
  omega

/-- What is wrong with the arguments of a membership is wrong with the membership. -/
theorem mem_violations_member_of_arguments {arguments : List Expr} {rows : List (List Expr)}
    {v : Violation} (h : v ∈ arguments.flatMap (violations provider options)) :
    v ∈ (member arguments rows).violations provider options := by
  rw [violations_member]
  exact List.mem_append_left _ (List.mem_append_left _ h)

/-- Whether or not the two sides merge, what is wrong with a disjunction is what is wrong with one
of them. -/
theorem mem_violations_disjunction_iff (left right : Expr) (v : Violation) :
    v ∈ (disjunction left right).violations provider options ↔
      v ∈ left.violations provider options ∨ v ∈ right.violations provider options := by
  by_cases h : Mergeable left right
  · obtain ⟨arguments, rows, arguments', rows', rfl, rfl, hequal⟩ := h
    have hperm := violations_merged_perm provider options rows rows' hequal
    rw [disjunction_member rows rows' hequal, ← List.mem_append, ← hperm.mem_iff, List.mem_append]
    constructor
    · exact Or.inl
    · rintro (hmerged | harguments)
      · exact hmerged
      · exact mem_violations_member_of_arguments provider options harguments
  · rw [disjunction_of_not_mergeable h, violations_or, List.mem_append]

/-- **Merging memberships neither hides nor invents violations.** A violation is reported on a
disjunction exactly when it is reported on one of its operands, so the disjunction is in order
exactly when both are. If nothing is merged, the report is that on the left operand followed by that
on the right one. -/
theorem violations_disjunction (left right : Expr) :
    (∀ v, v ∈ (disjunction left right).violations provider options ↔
      v ∈ left.violations provider options ∨ v ∈ right.violations provider options) ∧
    ((disjunction left right).violations provider options = [] ↔
      left.violations provider options = [] ∧ right.violations provider options = []) ∧
    ((disjunction left right).kind ≠ .member →
      (disjunction left right).violations provider options =
        left.violations provider options ++ right.violations provider options) := by
  have hmem := mem_violations_disjunction_iff provider options left right
  refine ⟨hmem, ?_, fun hkind => ?_⟩
  · simp only [List.eq_nil_iff_forall_not_mem, hmem, not_or, forall_and]
  · rw [Ne, kind_disjunction_eq_member_iff] at hkind
    rw [disjunction_of_not_mergeable hkind, violations_or]

/-- The membership of the column in error in a value. -/
def legacyIn (localName : Option String) (value : Datum) : Expr :=
  .member [.column (.entity "s" "Sales" localName) "Legacy"] [[ofDatum value]]

/-- What is wrong with a row of the right membership is reported although its arguments are dropped;
a negated membership does not merge. -/
theorem violations_disjunction_of_legacy :
    .valueType .text .integer ∈
      (disjunction (legacyIn none (.text "x")) (legacyIn (some "a") (.integer 1))).violations
        salesByArea {} ∧
    (disjunction (legacyIn none (.text "x")) (.not (legacyIn none (.integer 1)))).violations
        salesByArea {} =
      [.columnReference "Sales" "Legacy", .columnReference "Sales" "Legacy",
        .valueType .text .integer] := by
  constructor
  · exact ((violations_disjunction salesByArea {} _ _).1 _).2 (.inr (by decide))
  · rw [(violations_disjunction salesByArea {} _ _).2.2 (by decide)]
    decide

end SemanticQuery.Expr
