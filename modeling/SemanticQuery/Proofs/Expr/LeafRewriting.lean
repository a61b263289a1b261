import SemanticQuery.Expr.Rewrite
import SemanticQuery.Proofs.Expr.Leaves

/-!
# Rewriting the leaves

A rule that decides about leaves alone hands every other node to its children. Rewriting with such a
rule calls it once for every leaf, from left to right. The result is the expression in which every
leaf is replaced by what the rule makes of it, and it is the old expression, kept as a whole,
exactly when every one of the calls has kept its leaf.

The proof follows the rewriting from the leaves up. `Tracks` says of an action what has to be known
about it at an inner node: what it leads to, and when it keeps the old value.
-/

set_option autoImplicit false

namespace SemanticQuery

/-! ## Rules for leaves -/

namespace Rewriter

variable {m : Type → Type} [Monad m]

/-- What a rule makes of a node that nothing below has changed. -/
def atLeaf (rule : Rewriter Id) (e : Expr) : Expr :=
  (Id.run (rule e (pure none))).applyTo e

/-- A rule that decides about leaves alone. -/
def OnlyLeaves (rule : Rewriter Id) : Prop :=
  ∀ e children, e.isLeaf = false → rule e children = children

/-- The rule that decides about leaves by a function, which may have effects, and hands every other
node to its children. -/
def onLeaves (f : Expr → m Revision) : Rewriter m :=
  fun e children => if e.isLeaf then f e else children

/-- The rule decides about leaves by the function and hands every other node to its children. -/
structure DecidesBy (rule : Rewriter m) (f : Expr → m Revision) : Prop where
  leaf : ∀ e, e.isLeaf = true → rule e (pure none) = f e
  inner : ∀ e children, e.isLeaf = false → rule e children = children

/-- The rule that is made from a function for leaves decides by this function. -/
theorem onLeaves_decidesBy (f : Expr → m Revision) : (onLeaves f).DecidesBy f where
  leaf _ hleaf := if_pos hleaf
  inner _ _ hinner := if_neg (Bool.eq_false_iff.1 hinner)

/-- A rule that decides about leaves alone decides by what it does at a leaf. -/
theorem OnlyLeaves.decidesBy {rule : Rewriter Id} (h : rule.OnlyLeaves) :
    rule.DecidesBy fun a => rule a (pure none) where
  leaf _ _ := rfl
  inner := h

end Rewriter

/-! ## Actions that track leaves -/

section Tracking

variable {m : Type → Type} [Monad m]

/-- Replaces a leaf by what the call for it leads to. -/
def calledAt (f : Expr → m Revision) (a : Expr) : m Expr := do
  return (← f a).applyTo a

/-- Calls a function for one leaf after the other and tells whether all of them are kept. -/
def keepsAll (f : Expr → m Revision) (leaves : List Expr) : m Bool :=
  (fun outcomes => outcomes.all Option.isNone) <$> leaves.mapM f

/-- The action leads from a value to what the mapping makes of it, and keeps the value exactly when
the calls for the given leaves keep all of them. -/
structure Tracks {α : Type} (f : Expr → m Revision) (leaves : List Expr) (a : α) (mapping : m α)
    (action : m (Option α)) : Prop where
  leadsTo : (fun revision => revision.getD a) <$> action = mapping
  keeps : Option.isNone <$> action = keepsAll f leaves

variable [LawfulMonad m] {f : Expr → m Revision}

/-- All leaves of two lists are kept if those of the first are and then those of the second. -/
theorem keepsAll_append (leaves leaves' : List Expr) :
    keepsAll f (leaves ++ leaves') =
      (do return (← keepsAll f leaves) && (← keepsAll f leaves')) := by
  simp only [keepsAll, List.mapM_append, map_bind, map_pure, List.all_append, bind_map_left]

/-- The call for a leaf tracks the leaf. -/
theorem tracks_leaf (a : Expr) :
    Tracks f [a] a (calledAt f a) (f a) where
  leadsTo := map_eq_pure_bind _ _
  keeps := by
    simp [keepsAll]

/-- Where there is no leaf, doing nothing tracks the leaves. -/
theorem tracks_nil {α : Type} (a : α) : Tracks f [] a (pure a) (pure none) where
  leadsTo := map_pure _ _
  keeps := by
    simp [keepsAll]

/-- A node with one child tracks the leaves of the child. -/
theorem Tracks.child {leaves : List Expr} {child : Expr} {mapping : m Expr} {action : m Revision}
    (build : Expr → Expr) (h : Tracks f leaves child mapping action) :
    Tracks f leaves (build child) (do return build (← mapping))
      (do return (← action).map build) where
  leadsTo := by
    simp only [← h.leadsTo, map_bind, map_pure, Option.getD_map, bind_map_left]
  keeps := by
    simp only [← h.keeps, bind_pure_comp, Functor.map_map, Option.isNone_map]

/-- Something of two parts tracks the leaves of the first part and then those of the second. -/
theorem Tracks.parts {α β γ : Type} {leaves leaves' : List Expr} {a : α} {b : β} {mapping : m α}
    {mapping' : m β} {action : m (Option α)} {action' : m (Option β)} (build : α → β → γ)
    (hfirst : Tracks f leaves a mapping action) (hsecond : Tracks f leaves' b mapping' action') :
    Tracks f (leaves ++ leaves') (build a b) (do return build (← mapping) (← mapping'))
      (do return rebuild build a b (← action) (← action')) where
  leadsTo := by
    simp only [← hfirst.leadsTo, ← hsecond.leadsTo, map_bind, map_pure, rebuild_getD,
      bind_map_left]
  keeps := by
    have hrebuild (a' : Option α) (b' : Option β) :
        (rebuild build a b a' b').isNone = (a'.isNone && b'.isNone) := by
      rw [Bool.eq_iff_iff]
      simp [rebuild_eq_none_iff]
    simp only [keepsAll_append, ← hfirst.keeps, ← hsecond.keeps, map_bind, map_pure, hrebuild,
      bind_map_left]

end Tracking

/-! ## Rewriting -/

section Rewriting

variable {m : Type → Type} [Monad m] [LawfulMonad m] {rule : Rewriter m} {f : Expr → m Revision}

/-- Rewriting an expression tracks its leaves. -/
def RewritingTracks (rule : Rewriter m) (f : Expr → m Revision) (e : Expr) : Prop :=
  Tracks f e.leaves e (e.mapLeavesM (calledAt f)) (e.rewrite rule)

/-- Rewriting a list tracks the leaves of its entries, if so for every entry. -/
theorem tracks_rewriteAll {es : List Expr} (h : ∀ e ∈ es, RewritingTracks rule f e) :
    Tracks f (es.flatMap Expr.leaves) es (Expr.mapLeavesOfAllM (calledAt f) es)
      (Expr.rewriteAll rule es) := by
  induction es with
  | nil => exact tracks_nil []
  | cons e rest ih =>
    have hfirst : RewritingTracks rule f e := h e (List.mem_cons_self ..)
    have hrest := ih fun other hother => h other (List.mem_cons_of_mem _ hother)
    exact hfirst.parts List.cons hrest

/-- Rewriting rows tracks the leaves of their entries, if so for every entry. -/
theorem tracks_rewriteRows {rows : List (List Expr)}
    (h : ∀ row ∈ rows, ∀ e ∈ row, RewritingTracks rule f e) :
    Tracks f (rows.flatMap fun row => row.flatMap Expr.leaves) rows
      (Expr.mapLeavesOfRowsM (calledAt f) rows) (Expr.rewriteRows rule rows) := by
  induction rows with
  | nil => exact tracks_nil []
  | cons row rest ih =>
    have hfirst := tracks_rewriteAll (h row (List.mem_cons_self ..))
    have hrest := ih fun other hother => h other (List.mem_cons_of_mem _ hother)
    exact hfirst.parts List.cons hrest

/-- **Rewriting tracks the leaves.** By induction on the expression: at an inner node the rule
returns what the node is rebuilt to from its children. -/
theorem rewritingTracks (hrule : rule.DecidesBy f) (e : Expr) : RewritingTracks rule f e := by
  induction e <;> unfold RewritingTracks <;> rw [Expr.rewrite, Expr.mapLeavesM]
  case entity | constant | now | defaultValue | anyValue =>
    rw [hrule.leaf _ rfl, Expr.leaves_of_isLeaf rfl]
    exact tracks_leaf _
  all_goals rw [hrule.inner _ _ rfl]
  case member arguments rows iharguments ihrows =>
    rw [Expr.leaves_member]
    exact (tracks_rewriteAll iharguments).parts Expr.member (tracks_rewriteRows ihrows)
  all_goals
    rw [Expr.leaves_eq_children rfl]
    simp only [Expr.children, List.flatMap_cons, List.flatMap_nil, List.append_nil]
  case column source name ih => exact ih.child fun e => Expr.column e name
  case measure source name ih => exact ih.child fun e => Expr.measure e name
  case aggregation function argument ih => exact ih.child (Expr.aggregation function)
  case variation source name property ih => exact ih.child fun e => Expr.variation e name property
  case hierarchy source name ih => exact ih.child fun e => Expr.hierarchy e name
  case level source name ih => exact ih.child fun e => Expr.level e name
  case and ihleft ihright => exact ihleft.parts Expr.and ihright
  case or ihleft ihright => exact ihleft.parts Expr.or ihright
  case compare comparison _ _ ihleft ihright => exact ihleft.parts (Expr.compare comparison) ihright
  case between argument lower upper ihargument ihlower ihupper =>
    -- The walk rebuilds a range from its argument and the pair of its bounds.
    have hbounds := ihlower.parts Prod.mk ihupper
    have hrange := ihargument.parts (fun e (bounds : Expr × Expr) =>
      Expr.between e bounds.1 bounds.2) hbounds
    simpa only [bind_assoc, pure_bind, List.append_assoc] using hrange
  case contains ihleft ihright => exact ihleft.parts Expr.contains ihright
  case startsWith ihleft ihright => exact ihleft.parts Expr.startsWith ihright
  case nonempty ih => exact ih.child Expr.nonempty
  case not ih => exact ih.child Expr.not
  case dateSpan unit _ ih => exact ih.child (Expr.dateSpan unit)
  case dateAdd unit amount _ ih => exact ih.child (Expr.dateAdd unit amount)

/-- Without effects, rewriting leads to what replacing the leaves leads to. -/
theorem applyTo_rewrite {rule : Rewriter Id} {f : Expr → Id Revision} (hrule : rule.DecidesBy f)
    (e : Expr) :
    (Id.run (e.rewrite rule)).applyTo e = e.mapLeaves fun a => (Id.run (f a)).applyTo a := by
  have hmapping : (Id.run (e.rewrite rule)).applyTo e = e.mapLeavesM (calledAt f) :=
    (rewritingTracks hrule e).leadsTo
  rw [hmapping]
  exact Expr.mapLeavesM_pure (fun a => (Id.run (f a)).applyTo a) e

/-- Without effects, rewriting keeps an expression exactly if every leaf is kept. -/
theorem rewrite_eq_none_iff {rule : Rewriter Id} {f : Expr → Id Revision}
    (hrule : rule.DecidesBy f) (e : Expr) :
    Id.run (e.rewrite rule) = none ↔ ∀ a ∈ e.leaves, Id.run (f a) = none := by
  have hkeeps : (Id.run (e.rewrite rule)).isNone =
      (Id.run (e.leaves.mapM f)).all Option.isNone :=
    (rewritingTracks hrule e).keeps
  rw [← Option.isNone_iff_eq_none, hkeeps, List.idRun_mapM, List.all_eq_true]
  simp only [List.mem_map, forall_exists_index, and_imp, forall_apply_eq_imp_iff₂,
    Option.isNone_iff_eq_none]

/-- A run of the rewriting calls the function for the leaves from left to right, leads to what the
structural map leads to, and keeps the expression exactly if every call has kept its leaf. -/
theorem exists_rewrite_onLeaves_run {σ : Type} (f : Expr → StateM σ Revision)
    (e : Expr) (start : σ) :
    ∃ revision outcomes final,
      Id.run ((e.rewrite (.onLeaves f)).run start) = (revision, final) ∧
      Id.run ((e.leaves.mapM f).run start) = (outcomes, final) ∧
      Id.run ((e.mapLeavesM (calledAt f)).run start) = (revision.applyTo e, final) ∧
      (revision = none ↔ ∀ outcome ∈ outcomes, outcome = none) := by
  have htracks := rewritingTracks (Rewriter.onLeaves_decidesBy f) e
  let walked := Id.run ((e.rewrite (.onLeaves f)).run start)
  let called := Id.run ((e.leaves.mapM f).run start)
  have hleadsTo : (walked.1.applyTo e, walked.2) =
      Id.run ((e.mapLeavesM (calledAt f)).run start) :=
    congrArg (fun action => Id.run (action.run start)) htracks.leadsTo
  have hkeeps : (walked.1.isNone, walked.2) = (called.1.all Option.isNone, called.2) :=
    congrArg (fun action => Id.run (action.run start)) htracks.keeps
  obtain ⟨hkept, hstate⟩ := Prod.mk.inj hkeeps
  refine ⟨walked.1, called.1, walked.2, rfl, Prod.ext rfl hstate.symm, hleadsTo.symm, ?_⟩
  rw [← Option.isNone_iff_eq_none, hkept, List.all_eq_true]
  simp only [Option.isNone_iff_eq_none]

end Rewriting

/-- Rows that have become the same are both left in their places. -/
example :
    Id.run ((Expr.member [.column .now "Date"] [[.now], [.defaultValue]]).rewrite
      (.onLeaves fun a => if a matches .now then pure (some .defaultValue) else pure none)) =
    some (.member [.column .defaultValue "Date"] [[.defaultValue], [.defaultValue]]) := rfl

end SemanticQuery
