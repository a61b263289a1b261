import SemanticQuery.Aggregation
import SemanticQuery.Expr.Aggregate
import SemanticQuery.Proofs.Expr.LocalNames
import SemanticQuery.Proofs.Expr.Rectangular
import SemanticQuery.Proofs.Expr.RowIdentity
import SemanticQuery.Proofs.Predicate.Optional
import SemanticQuery.Proofs.Predicate.Selection
import SemanticQuery.Proofs.Validation.Report

/-!
# Reachable expressions

`Reachable` is closed under everything the library does: the building of expressions, where the
check of a membership has to succeed, and every operation that makes expressions from expressions.
One lemma for each operation says that it keeps expressions rectangular; by induction all reachable
expressions are. In consequence the check of a membership would succeed wherever an operation makes
one on its own.
-/

set_option autoImplicit false

namespace SemanticQuery

open SemanticQuery.Expr

/-! ## What the operations make of rectangular expressions -/

namespace Expr

variable {e : Expr}

/-- A constant, which has no rows, is rectangular. -/
theorem rectangular_constant (value : Constant) : (constant value).Rectangular := by
  apply rectangular_of_children
  · exact List.forall_mem_nil _
  · nofun

/-- A column has its source for its only child. -/
theorem unary_column (name : String) : Unary (column · name) :=
  fun _ => ⟨rfl, nofun⟩

/-- An aggregation has its argument for its only child. -/
theorem unary_aggregation (function : AggregateFunction) : Unary (aggregation function) :=
  fun _ => ⟨rfl, nofun⟩

/-- A conjunction has its two sides for children. -/
theorem binary_and : Binary and :=
  fun _ _ => ⟨rfl, nofun⟩

/-- A plain disjunction has its two sides for children. -/
theorem binary_or : Binary or :=
  fun _ _ => ⟨rfl, nofun⟩

/-- A membership that passes the check of its rows is rectangular, if its arguments and entries
are. -/
theorem rectangular_membership {arguments : List Expr} {rows : List (List Expr)}
    (harguments : ∀ argument ∈ arguments, argument.Rectangular)
    (hrows : ∀ row ∈ rows, ∀ entry ∈ row, entry.Rectangular)
    (hbuilt : membership arguments rows = .ok e) : e.Rectangular := by
  obtain ⟨hfits, rfl⟩ := (membership_eq_ok_iff arguments rows e).1 hbuilt
  rw [rectangular_member_iff]
  exact ⟨harguments, fun row hrow => ⟨hfits row hrow, hrows row hrow⟩⟩

/-- The rows of two memberships over equal arguments fit together, because equal lists are equally
long. -/
theorem membership_append {arguments arguments' : List Expr} {rows rows' : List (List Expr)}
    (hleft : (member arguments rows).Rectangular) (hright : (member arguments' rows').Rectangular)
    (hequal : equalsAll false arguments arguments' = true) :
    membership arguments (rows ++ rows') = .ok (member arguments (rows ++ rows')) := by
  rw [membership_eq_ok_iff]
  refine ⟨fun row hrow => ?_, rfl⟩
  rcases List.mem_append.1 hrow with hrow | hrow
  · exact hleft arguments rows (self_mem_nodes _) row hrow
  · have hlength := ((equalsAll_iff arguments arguments').1 hequal).length_eq
    rw [hlength]
    exact hright arguments' rows' (self_mem_nodes _) row hrow

/-- A disjunction of rectangular expressions is rectangular, also where two memberships merge. -/
theorem rectangular_disjunction {left right : Expr} (hleft : left.Rectangular)
    (hright : right.Rectangular) : (disjunction left right).Rectangular := by
  by_cases h : Mergeable left right
  · obtain ⟨arguments, rows, arguments', rows', rfl, rfl, hequal⟩ := h
    have hbuilt := membership_append hleft hright hequal
    rw [rectangular_member_iff] at hleft hright
    rw [disjunction_member rows rows' hequal]
    refine rectangular_membership hleft.1 (fun row hrow => ?_) hbuilt
    rcases List.mem_append.1 hrow with hrow | hrow
    · exact (hleft.2 row hrow).2
    · exact (hright.2 row hrow).2
  · rw [disjunction_of_not_mergeable h]
    exact (binary_or.rectangular_iff left right).2 ⟨hleft, hright⟩

/-- Two predicates that may be absent are combined if both are present. -/
theorem rectangular_merge {combine : Expr → Expr → Expr}
    (hcombine : ∀ l r, l.Rectangular ∧ r.Rectangular → (combine l r).Rectangular)
    {left right : Option Expr} (hleft : ∀ l ∈ left, l.Rectangular)
    (hright : ∀ r ∈ right, r.Rectangular) (hbuilt : e ∈ Option.merge combine left right) :
    e.Rectangular := by
  cases left with
  | none =>
    cases right with
    | none => cases hbuilt
    | some r => exact hright e hbuilt
  | some l =>
    cases right with
    | none => exact hleft e hbuilt
    | some r =>
      cases hbuilt
      exact hcombine l r ⟨hleft l rfl, hright r rfl⟩

/-- An aggregation of a rectangular expression is rectangular. -/
theorem rectangular_aggregation (function : AggregateFunction) (h : e.Rectangular) :
    (aggregation function e).Rectangular :=
  ((unary_aggregation function).rectangular_iff e).2 h

/-- Setting the function of a rectangular expression gives a rectangular one. -/
theorem rectangular_setAggregate (function : AggregateFunction) (h : e.Rectangular) :
    ((e.setAggregate function).applyTo e).Rectangular := by
  unfold setAggregate
  split
  case h_1 => exact rectangular_aggregation function h
  case h_2 current argument =>
    split
    · exact h
    · exact rectangular_aggregation function (h.child (List.mem_singleton_self argument))
  case h_3 => exact h

/-- Removing the function of a rectangular expression gives a rectangular one. -/
theorem rectangular_removeAggregate (h : e.Rectangular) :
    (e.removeAggregate.applyTo e).Rectangular := by
  unfold removeAggregate
  split
  case h_1 argument => exact h.child (List.mem_singleton_self argument)
  case h_2 => exact h

/-- Aggregating a rectangular expression gives a rectangular one. -/
theorem rectangular_aggregated (provider : Provider) (options : AggregationOptions)
    (h : e.Rectangular) : ((e.aggregated provider options).applyTo e).Rectangular := by
  unfold aggregated
  cases e.chosenAggregate? provider options with
  | none => exact h
  | some function => exact rectangular_aggregation function h

/-- The grouping keys of a rectangular expression are rectangular. -/
theorem rectangular_groupingKey {provider : Provider} {key : Expr} (h : e.Rectangular)
    (hkey : key ∈ e.groupingKeys provider) : key.Rectangular := by
  rcases eq_or_column_of_mem_groupingKeys hkey with rfl | ⟨source, name, name', rfl, rfl⟩
  · exact h
  · have hsource := ((unary_column name).rectangular_iff source).1 h
    exact ((unary_column name').rectangular_iff source).2 hsource

/-- The check of a membership accepts the parts of an identity. -/
theorem membership_of_identityParts? {parts : IdentityParts}
    (hparts : e.identityParts? = some parts) :
    membership parts.keys [parts.values] = .ok (member parts.keys [parts.values]) := by
  obtain ⟨equations, -, rfl⟩ := exists_identity_of_identityParts? hparts
  rw [membership_eq_ok_iff]
  exact ⟨List.forall_mem_singleton.2 (length_valuesOf equations), rfl⟩

/-- The membership that is made from a rectangular row identity is rectangular. -/
theorem rectangular_identityMembership {filter : Expr} (h : e.Rectangular)
    (hfilter : e.identityMembership? = some filter) : filter.Rectangular := by
  obtain ⟨parts, hparts, rfl⟩ := Option.map_eq_some_iff.1 hfilter
  have hbuilt := membership_of_identityParts? hparts
  obtain ⟨equations, hidentity, rfl⟩ := exists_identity_of_identityParts? hparts
  refine rectangular_membership (fun key hkey => ?_) (List.forall_mem_singleton.2 ?_) hbuilt
  · exact h.node (hidentity.mem_nodes_of_key hkey)
  · intro value hvalue
    obtain ⟨equation, -, rfl⟩ := List.mem_map.1 hvalue
    exact rectangular_constant equation.2

/-- Without its local names a rectangular expression is rectangular. -/
theorem rectangular_withoutLocalNames (h : e.Rectangular) :
    (e.withoutLocalNames.applyTo e).Rectangular := by
  have hequal : Equal false e (e.mapLeaves anonymous) := equal_mapLeaves_anonymous e
  rw [withoutLocalNames_applyTo]
  exact hequal.rectangular h

/-- Validation hands a rectangular expression back as one. -/
theorem rectangular_validated (provider : Provider) (options : ValidationOptions)
    (found : List Violation) (h : e.Rectangular) :
    ((e.validateFrom provider options found).1.applyTo e).Rectangular := by
  have hkept : (e.validateFrom provider options found).1 = none :=
    congrArg Prod.fst (walkRecords provider options e found)
  rw [hkept]
  exact h

end Expr

/-! ## Reachability -/

/-- The expressions that can be had from the library: those that can be built, the parts of those
that can be had, and what the operations make of them. Revisions are applied; the rule of a rewriter
is any that keeps expressions rectangular, with any state. -/
inductive Reachable : Expr → Prop where
  /-- All but memberships are built from their children without a check. -/
  | node {e : Expr} (hkind : e.kind ≠ .member)
      (hchildren : ∀ child ∈ e.children, Reachable child) : Reachable e
  | membership {arguments : List Expr} {rows : List (List Expr)} {e : Expr}
      (harguments : ∀ argument ∈ arguments, Reachable argument)
      (hrows : ∀ row ∈ rows, ∀ entry ∈ row, Reachable entry)
      (hbuilt : membership arguments rows = .ok e) : Reachable e
  | part {e node : Expr} (h : Reachable e) (hnode : node ∈ e.nodes) : Reachable node
  | disjunction {left right : Expr} (hleft : Reachable left) (hright : Reachable right) :
      Reachable (disjunction left right)
  | andOptional {left right : Option Expr} {e : Expr} (hleft : ∀ l ∈ left, Reachable l)
      (hright : ∀ r ∈ right, Reachable r) (hbuilt : e ∈ andOptional left right) : Reachable e
  | orOptional {left right : Option Expr} {e : Expr} (hleft : ∀ l ∈ left, Reachable l)
      (hright : ∀ r ∈ right, Reachable r) (hbuilt : e ∈ orOptional left right) : Reachable e
  | rewritten {σ : Type} {rule : Rewriter (StateM σ)} (hrule : rule.KeepsRectangular) (s : σ)
      {e : Expr} (h : Reachable e) : Reachable ((Id.run ((e.rewrite rule).run s)).1.applyTo e)
  | withoutLocalNames {e : Expr} (h : Reachable e) : Reachable (e.withoutLocalNames.applyTo e)
  | validated (provider : Provider) (options : ValidationOptions) (found : List Violation)
      {e : Expr} (h : Reachable e) :
      Reachable ((e.validateFrom provider options found).1.applyTo e)
  | setAggregate (function : AggregateFunction) {e : Expr} (h : Reachable e) :
      Reachable ((e.setAggregate function).applyTo e)
  | removeAggregate {e : Expr} (h : Reachable e) : Reachable (e.removeAggregate.applyTo e)
  | aggregated (provider : Provider) (options : AggregationOptions) {e : Expr} (h : Reachable e) :
      Reachable ((e.aggregated provider options).applyTo e)
  | groupingKey {provider : Provider} {e key : Expr} (h : Reachable e)
      (hkey : key ∈ e.groupingKeys provider) : Reachable key
  | identityMembership {e filter : Expr} (h : Reachable e)
      (hfilter : e.identityMembership? = some filter) : Reachable filter

/-- **Reachable expressions are rectangular**, one operation after the other. -/
theorem Reachable.rectangular {e : Expr} (h : Reachable e) : e.Rectangular := by
  induction h with
  | node hkind _ ih => exact (rectangular_iff_children hkind).2 ih
  | membership _ _ hbuilt iharguments ihrows =>
    exact rectangular_membership iharguments ihrows hbuilt
  | part _ hnode ih => exact ih.node hnode
  | disjunction _ _ ihleft ihright => exact rectangular_disjunction ihleft ihright
  | andOptional _ _ hbuilt ihleft ihright =>
    rw [andOptional_eq_merge] at hbuilt
    exact rectangular_merge (fun l r => (binary_and.rectangular_iff l r).2) ihleft ihright hbuilt
  | orOptional _ _ hbuilt ihleft ihright =>
    rw [orOptional_eq_merge] at hbuilt
    exact rectangular_merge (fun _ _ h => rectangular_disjunction h.1 h.2) ihleft ihright hbuilt
  | rewritten hrule s _ ih => exact leadsTo_rectangular hrule _ ih s
  | withoutLocalNames _ ih => exact rectangular_withoutLocalNames ih
  | validated provider options found _ ih => exact rectangular_validated provider options found ih
  | setAggregate function _ ih => exact rectangular_setAggregate function ih
  | removeAggregate _ ih => exact rectangular_removeAggregate ih
  | aggregated provider options _ ih => exact rectangular_aggregated provider options ih
  | groupingKey _ hkey ih => exact rectangular_groupingKey ih hkey
  | identityMembership _ hfilter ih => exact rectangular_identityMembership ih hfilter

/-- What is rectangular can be had; it is enough to build it from its children. -/
theorem Expr.Rectangular.reachable {e : Expr} (h : e.Rectangular) : Reachable e := by
  induction e using induct_children with
  | h e ih =>
    have hchildren : ∀ child ∈ e.children, Reachable child :=
      fun child hchild => ih child hchild (h.child hchild)
    cases e
    case member arguments rows =>
      have harguments : ∀ argument ∈ arguments, Reachable argument :=
        fun argument hargument => hchildren argument (List.mem_append_left _ hargument)
      have hrows : ∀ row ∈ rows, ∀ entry ∈ row, Reachable entry := by
        intro row hrow entry hentry
        exact hchildren entry (List.mem_append_right _ (List.mem_flatten.2 ⟨row, hrow, hentry⟩))
      refine .membership harguments hrows ?_
      rw [membership_eq_ok_iff]
      exact ⟨h arguments rows (self_mem_nodes _), rfl⟩
    all_goals exact .node nofun hchildren

/-- The reachable expressions are the rectangular ones. -/
theorem reachable_iff_rectangular (e : Expr) : Reachable e ↔ e.Rectangular :=
  ⟨Reachable.rectangular, Rectangular.reachable⟩

/-- **In reachable expressions all memberships fit.** Every row of a membership in a reachable
expression is as long as its argument list. The check of a membership, which a disjunction that
merges two memberships and the extraction of a row identity go without, would succeed: on the merged
rows of two reachable memberships over equal arguments, and on the collected keys and constants. -/
theorem reachable_memberships_fit :
    (∀ e, Reachable e → ∀ arguments rows, member arguments rows ∈ e.nodes →
      ∀ row ∈ rows, row.length = arguments.length) ∧
    (∀ arguments rows arguments' rows', Reachable (member arguments rows) →
      Reachable (member arguments' rows') → equalsAll false arguments arguments' = true →
      membership arguments (rows ++ rows') =
        .ok (disjunction (member arguments rows) (member arguments' rows'))) ∧
    (∀ e, Reachable e → ∀ parts, e.identityParts? = some parts →
      ∃ filter, membership parts.keys [parts.values] = .ok filter ∧
        e.identityMembership? = some filter) := by
  refine ⟨fun e h => h.rectangular, ?_, ?_⟩
  · intro arguments rows arguments' rows' hleft hright hequal
    rw [disjunction_member rows rows' hequal]
    exact membership_append hleft.rectangular hright.rectangular hequal
  · intro e _ parts hparts
    refine ⟨member parts.keys [parts.values], membership_of_identityParts? hparts, ?_⟩
    rw [identityMembership?, hparts]
    rfl

/-- Fills in a constant for every default value and counts how often. -/
def Rewriter.fillDefault (value : Constant) : Rewriter (StateM Nat)
  | .defaultValue, _ => do
      modify (· + 1)
      return some (.constant value)
  | _, children => children

/-- A constant in the place of a default value does not break a membership. -/
theorem keepsRectangular_fillDefault (value : Constant) :
    (Rewriter.fillDefault value).KeepsRectangular := by
  apply Rewriter.keepsRectangular_of_overrides
  intro e children
  cases e with
  | defaultValue =>
    right
    exact fun _ => rectangular_constant value
  | _ => exact .inl rfl

/-- A column of the sales can be built. -/
theorem reachable_salesColumn (localName : Option String) (name : String) :
    Reachable (salesColumn localName name) := by
  have hentity : Reachable (.entity "s" "Sales" localName) := .node nofun (List.forall_mem_nil _)
  exact .node nofun (List.forall_mem_singleton.2 hentity)

/-- A membership with one argument and one value can be built from expressions that can be. -/
theorem reachable_member_singleton {argument value : Expr} (hargument : Reachable argument)
    (hvalue : Reachable value) : Reachable (.member [argument] [[value]]) := by
  have hrows : ∀ row ∈ [[value]], ∀ entry ∈ row, Reachable entry :=
    List.forall_mem_singleton.2 (List.forall_mem_singleton.2 hvalue)
  exact .membership (List.forall_mem_singleton.2 hargument) hrows rfl

/-- Filling in a default value leads to a membership that merges with another one, and an identity
leads to a membership. -/
theorem reachable_memberships_fit_of_regions :
    (∀ row ∈ [[ofDatum (.text "West")]], row.length = [salesColumn none "Region"].length) ∧
    membership [salesColumn none "Region"] [[ofDatum (.text "West")], [ofDatum (.text "East")]] =
      .ok (disjunction (regionIn none ["West"]) (regionIn (some "a") ["East"])) ∧
    ∃ filter, membership [salesColumn none "Region"] [[ofDatum (.text "West")]] = .ok filter ∧
      (regionEquation none "West").identityMembership? = some filter := by
  have hregion := fun localName => reachable_salesColumn localName "Region"
  have hconstant : ∀ value, Reachable (.constant value) :=
    fun value => (rectangular_constant value).reachable
  have hdefault : Reachable .defaultValue := .node nofun (List.forall_mem_nil _)
  have hrule := keepsRectangular_fillDefault (Constant.ofDatum (.text "West"))
  have hwest : Reachable (regionIn none ["West"]) :=
    .rewritten hrule 0 (reachable_member_singleton (hregion none) hdefault)
  have heast : Reachable (regionIn (some "a") ["East"]) :=
    reachable_member_singleton (hregion (some "a")) (hconstant _)
  have hequation : Reachable (regionEquation none "West") :=
    .node nofun (List.forall_mem_cons.2 ⟨hregion none, List.forall_mem_singleton.2 (hconstant _)⟩)
  refine ⟨?_, ?_, ?_⟩
  · exact reachable_memberships_fit.1 _ hwest _ _ (self_mem_nodes _)
  · exact reachable_memberships_fit.2.1 _ _ _ _ hwest heast rfl
  · exact reachable_memberships_fit.2.2 _ hequation _ rfl

end SemanticQuery
