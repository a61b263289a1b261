import SemanticQuery.Proofs.Expr.Congruence
import SemanticQuery.Proofs.Predicate.Disjunction

/-!
# Rectangular memberships

The rows of a membership are as long as its argument list. Building a membership checks this, but
memberships also come about without the check: rewriting rebuilds them from rewritten arguments and
rows, a disjunction joins the rows of two of them, and the extraction of a row identity makes one
from what it has collected.

An expression is rectangular when all memberships in it are. Every operation of the library leads
from rectangular expressions to rectangular ones (`Reachable.rectangular`), and the check would
accept the memberships that are made without it. For rewriting this is an induction on the
expression: what the children of a node are led to has the lengths of the old children, so the rule
of the rewriter only has to answer for its own outcomes.
-/

set_option autoImplicit false

namespace SemanticQuery

open SemanticQuery.Expr

namespace Expr

/-- Every row of every membership in the expression is as long as the argument list. -/
def Rectangular (e : Expr) : Prop :=
  ∀ arguments rows, member arguments rows ∈ e.nodes → ∀ row ∈ rows, row.length = arguments.length

/-! ## Nodes and children -/

/-- The nodes of a rectangular expression are rectangular. -/
theorem Rectangular.node {e node : Expr} (h : e.Rectangular) (hnode : node ∈ e.nodes) :
    node.Rectangular :=
  fun arguments rows hmember => h arguments rows (mem_nodes_trans hmember hnode)

/-- The children of a rectangular expression are rectangular. -/
theorem Rectangular.child {e child : Expr} (h : e.Rectangular) (hchild : child ∈ e.children) :
    child.Rectangular := by
  apply h.node
  rw [nodes_eq_children]
  exact List.mem_append_left _ (List.mem_flatMap.2 ⟨child, hchild, self_mem_nodes child⟩)

/-- An expression is rectangular when its children are, and its rows fit if it is a membership. -/
theorem rectangular_of_children {e : Expr} (hchildren : ∀ child ∈ e.children, child.Rectangular)
    (hroot : ∀ arguments rows, e = member arguments rows →
      ∀ row ∈ rows, row.length = arguments.length) : e.Rectangular := by
  intro arguments rows hmember
  rw [nodes_eq_children] at hmember
  rcases List.mem_append.1 hmember with hbelow | hself
  · obtain ⟨child, hchild, hinner⟩ := List.mem_flatMap.1 hbelow
    exact hchildren child hchild arguments rows hinner
  · exact hroot arguments rows (List.mem_singleton.1 hself).symm

/-- What is no membership is rectangular exactly if its children are. -/
theorem rectangular_iff_children {e : Expr} (hkind : e.kind ≠ .member) :
    e.Rectangular ↔ ∀ child ∈ e.children, child.Rectangular := by
  constructor
  · exact fun h child hchild => h.child hchild
  · intro hchildren
    apply rectangular_of_children hchildren
    rintro arguments rows rfl
    exact absurd rfl hkind

/-- What is built is no membership and has the given expression for its only child. -/
def Unary (build : Expr → Expr) : Prop :=
  ∀ e, (build e).children = [e] ∧ (build e).kind ≠ .member

/-- What is built is no membership and has the two given expressions for its children. -/
def Binary (build : Expr → Expr → Expr) : Prop :=
  ∀ left right, (build left right).children = [left, right] ∧ (build left right).kind ≠ .member

/-- A node with one child is rectangular exactly if the child is. -/
theorem Unary.rectangular_iff {build : Expr → Expr} (h : Unary build) (e : Expr) :
    (build e).Rectangular ↔ e.Rectangular := by
  obtain ⟨hchildren, hkind⟩ := h e
  rw [rectangular_iff_children hkind, hchildren, List.forall_mem_singleton]

/-- A node with two children is rectangular exactly if both are. -/
theorem Binary.rectangular_iff {build : Expr → Expr → Expr} (h : Binary build)
    (left right : Expr) :
    (build left right).Rectangular ↔ left.Rectangular ∧ right.Rectangular := by
  obtain ⟨hchildren, hkind⟩ := h left right
  rw [rectangular_iff_children hkind, hchildren, List.forall_mem_cons, List.forall_mem_singleton]

/-- A membership is rectangular exactly if its arguments and entries are and every row is as long as
the argument list. -/
theorem rectangular_member_iff (arguments : List Expr) (rows : List (List Expr)) :
    (member arguments rows).Rectangular ↔ (∀ e ∈ arguments, e.Rectangular) ∧
      ∀ row ∈ rows, row.length = arguments.length ∧ ∀ e ∈ row, e.Rectangular := by
  constructor
  · intro h
    refine ⟨fun e he => h.child (List.mem_append_left _ he), fun row hrow => ⟨?_, fun e he => ?_⟩⟩
    · exact h arguments rows (self_mem_nodes _) row hrow
    · exact h.child (List.mem_append_right _ (List.mem_flatten.2 ⟨row, hrow, he⟩))
  · rintro ⟨harguments, hrows⟩
    apply rectangular_of_children
    · intro child hchild
      rcases List.mem_append.1 hchild with hargument | hentry
      · exact harguments child hargument
      · obtain ⟨row, hrow, he⟩ := List.mem_flatten.1 hentry
        exact (hrows row hrow).2 child he
    · rintro _ _ ⟨⟩ row hrow
      exact (hrows row hrow).1

/-- The check of a membership succeeds exactly if every row is as long as the argument list, and
gives the membership. -/
theorem membership_eq_ok_iff (arguments : List Expr) (rows : List (List Expr)) (e : Expr) :
    membership arguments rows = .ok e ↔
      (∀ row ∈ rows, row.length = arguments.length) ∧ member arguments rows = e := by
  simp only [membership, rowsFit, List.all_eq_true, beq_iff_eq]
  split
  case isTrue hfits =>
    rw [Except.ok.injEq]
    exact (and_iff_right hfits).symm
  case isFalse hfits => simp only [reduceCtorEq, hfits, false_and]

/-- Equal expressions have memberships of the same lengths. -/
theorem Equal.rectangular {ignoreCase : Bool} {x y : Expr} (h : Equal ignoreCase x y)
    (hx : x.Rectangular) : y.Rectangular := by
  intro arguments rows hmember row hrow
  obtain ⟨node, hnode, hequal⟩ := exists_mem_of_forall₂ h.nodes hmember
  cases hequal with
  | @member arguments' _ rows' _ harguments hrows =>
    obtain ⟨row', hrow', hentries⟩ := exists_mem_of_forall₂ hrows hrow
    calc row.length = row'.length := hentries.length_eq.symm
      _ = arguments'.length := hx arguments' rows' hnode row' hrow'
      _ = arguments.length := harguments.length_eq

end Expr

/-! ## Rewriting -/

section Rewriting

variable {σ : Type}

/-- From every state the action leads from a value to one with the property, which is the value
itself when it is kept. -/
def LeadsTo {α : Type} (P : α → Prop) (a : α) (action : StateM σ (Option α)) : Prop :=
  ∀ s, P ((Id.run (action.run s)).1.getD a)

/-- A rule that does not break what it is handed: where a node is rectangular, and what its children
lead to is, the outcome of the rule is rectangular. A rule that leaves a kind of nodes to their
children does so at these nodes; elsewhere its own outcomes have to be rectangular. -/
def Rewriter.KeepsRectangular (rule : Rewriter (StateM σ)) : Prop :=
  ∀ e children, e.Rectangular → LeadsTo Rectangular e children →
    LeadsTo Rectangular e (rule e children)

/-- A rule that overrides what becomes of some nodes by rectangular outcomes. -/
theorem Rewriter.keepsRectangular_of_overrides {rule : Rewriter (StateM σ)}
    (h : ∀ e children, rule e children = children ∨ LeadsTo Rectangular e (rule e children)) :
    rule.KeepsRectangular := by
  intro e children _ hchildren
  rcases h e children with hdefault | houtcome
  · rw [hdefault]
    exact hchildren
  · exact houtcome

/-- What is built from the outcome for a child has a property that passes from the child to the
node. -/
theorem leadsTo_child {P Q : Expr → Prop} {child : Expr} {action : StateM σ Revision}
    (build : Expr → Expr) (h : LeadsTo P child action) (hbuild : ∀ e, P e → Q (build e)) :
    LeadsTo Q (build child) (do return (← action).map build) := by
  intro s
  show Q (((Id.run (action.run s)).1.map build).getD (build child))
  rw [Option.getD_map]
  exact hbuild _ (h s)

/-- What is built from the outcomes for two parts has a property that passes from the parts to the
whole. -/
theorem leadsTo_parts {α β γ : Type} {P : α → Prop} {R : β → Prop} {Q : γ → Prop} {a : α} {b : β}
    {first : StateM σ (Option α)} {second : StateM σ (Option β)} (build : α → β → γ)
    (hfirst : LeadsTo P a first) (hsecond : LeadsTo R b second)
    (hbuild : ∀ a b, P a → R b → Q (build a b)) :
    LeadsTo Q (build a b) (do return rebuild build a b (← first) (← second)) := by
  intro s
  show Q ((rebuild build a b (Id.run (first.run s)).1
    (Id.run (second.run (Id.run (first.run s)).2)).1).getD (build a b))
  rw [rebuild_getD]
  exact hbuild _ _ (hfirst s) (hsecond _)

variable {rule : Rewriter (StateM σ)}

/-- A list is rewritten to one of the same length. -/
theorem leadsTo_rewriteAll {es : List Expr}
    (h : ∀ e ∈ es, LeadsTo Rectangular e (e.rewrite rule)) :
    LeadsTo (fun es' => es'.length = es.length ∧ ∀ e ∈ es', e.Rectangular) es
      (rewriteAll rule es) := by
  induction es with
  | nil => exact fun s => ⟨rfl, List.forall_mem_nil _⟩
  | cons e rest ih =>
    have hfirst := h e (List.mem_cons_self ..)
    have hrest := ih fun other hother => h other (List.mem_cons_of_mem _ hother)
    refine leadsTo_parts List.cons hfirst hrest fun e' rest' he' hrest' => ⟨?_, ?_⟩
    · rw [List.length_cons, List.length_cons, hrest'.1]
    · exact List.forall_mem_cons.2 ⟨he', hrest'.2⟩

/-- Rows of some length are rewritten to rows of that length. -/
theorem leadsTo_rewriteRows {width : Nat} {rows : List (List Expr)}
    (h : ∀ row ∈ rows, row.length = width ∧ ∀ e ∈ row, LeadsTo Rectangular e (e.rewrite rule)) :
    LeadsTo (fun rows' => ∀ row ∈ rows', row.length = width ∧ ∀ e ∈ row, e.Rectangular) rows
      (rewriteRows rule rows) := by
  induction rows with
  | nil => exact fun s => List.forall_mem_nil _
  | cons row rest ih =>
    obtain ⟨hwidth, hentries⟩ := h row (List.mem_cons_self ..)
    have hfirst := leadsTo_rewriteAll hentries
    have hrest := ih fun other hother => h other (List.mem_cons_of_mem _ hother)
    refine leadsTo_parts List.cons hfirst hrest fun row' rest' hrow' hrest' => ?_
    exact List.forall_mem_cons.2 ⟨⟨hrow'.1.trans hwidth, hrow'.2⟩, hrest'⟩

/-- A node with one child stays rectangular when its child does. -/
theorem leadsTo_unary {build : Expr → Expr} (hbuild : Unary build) {child : Expr}
    {action : StateM σ Revision} (he : (build child).Rectangular)
    (ih : child.Rectangular → LeadsTo Rectangular child action) :
    LeadsTo Rectangular (build child) (do return (← action).map build) := by
  have hchild := (hbuild.rectangular_iff child).1 he
  exact leadsTo_child build (ih hchild) fun e' he' => (hbuild.rectangular_iff e').2 he'

/-- A node with two children stays rectangular when both do. -/
theorem leadsTo_binary {build : Expr → Expr → Expr} (hbuild : Binary build) {left right : Expr}
    {first second : StateM σ Revision} (he : (build left right).Rectangular)
    (ihleft : left.Rectangular → LeadsTo Rectangular left first)
    (ihright : right.Rectangular → LeadsTo Rectangular right second) :
    LeadsTo Rectangular (build left right)
      (do return rebuild build left right (← first) (← second)) := by
  obtain ⟨hleft, hright⟩ := (hbuild.rectangular_iff left right).1 he
  refine leadsTo_parts build (ihleft hleft) (ihright hright) fun x y hx hy => ?_
  exact (hbuild.rectangular_iff x y).2 ⟨hx, hy⟩

/-- **Rewriting keeps rectangular expressions rectangular**, although it rebuilds memberships
without looking at their lengths. By induction on the expression: at every node the rule is handed
the action on the children, which leads to a rectangular node. -/
theorem leadsTo_rectangular (hrule : rule.KeepsRectangular) (e : Expr) (he : e.Rectangular) :
    LeadsTo Rectangular e (e.rewrite rule) := by
  induction e <;> rw [rewrite] <;> apply hrule _ _ he
  case entity | constant | now | defaultValue | anyValue => exact fun _ => he
  case column ih | measure ih | aggregation ih | variation ih | hierarchy ih | level ih
      | nonempty ih | not ih | dateSpan ih | dateAdd ih =>
    refine leadsTo_unary (fun _ => ⟨rfl, ?_⟩) he ih
    rintro ⟨⟩
  case and ihl ihr | or ihl ihr | compare ihl ihr | contains ihl ihr | startsWith ihl ihr =>
    refine leadsTo_binary (fun _ _ => ⟨rfl, ?_⟩) he ihl ihr
    rintro ⟨⟩
  case between argument lower upper ihargument ihlower ihupper =>
    have hargument := ihargument (he.child (.head _))
    have hlower := ihlower (he.child (.tail _ (.head _)))
    have hupper := ihupper (he.child (.tail _ (.tail _ (.head _))))
    -- The walk rebuilds a range from its argument and the pair of its bounds.
    have hbounds := leadsTo_parts
      (Q := fun bounds : Expr × Expr => bounds.1.Rectangular ∧ bounds.2.Rectangular)
      Prod.mk hlower hupper fun _ _ hx hy => ⟨hx, hy⟩
    refine leadsTo_parts (fun e (bounds : Expr × Expr) => between e bounds.1 bounds.2)
      hargument hbounds fun x bounds hx hb => ?_
    have hupper' := List.forall_mem_singleton.2 hb.2
    have hkind : (between x bounds.1 bounds.2).kind ≠ .member := by rintro ⟨⟩
    rw [rectangular_iff_children hkind]
    exact List.forall_mem_cons.2 ⟨hx, List.forall_mem_cons.2 ⟨hb.1, hupper'⟩⟩
  case member arguments rows iharguments ihrows =>
    obtain ⟨harguments, hrows⟩ := (rectangular_member_iff arguments rows).1 he
    have harguments' := leadsTo_rewriteAll fun e hmem => iharguments e hmem (harguments e hmem)
    have hrows' := leadsTo_rewriteRows fun row hrow =>
      ⟨(hrows row hrow).1, fun e hmem => ihrows row hrow e hmem ((hrows row hrow).2 e hmem)⟩
    refine leadsTo_parts member harguments' hrows' fun es' rows' hes' hrs' => ?_
    rw [rectangular_member_iff, hes'.1]
    exact ⟨hes'.2, hrs'⟩

end Rewriting

end SemanticQuery
