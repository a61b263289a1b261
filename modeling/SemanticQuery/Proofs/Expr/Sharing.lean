import SemanticQuery.Expr.Build
import SemanticQuery.Proofs.Expr.LeafPlaces
import SemanticQuery.Proofs.Expr.LeafRewriting
import SemanticQuery.Proofs.Validation.Report

/-!
# Sharing

Rewriting the leaves of an expression changes the nodes above the leaves that it changes and no
others. Here the nodes have handles, so that it can be said of each place whether the node that
stands there afterwards is the one that stood there before. It is exactly if no leaf at or below the
place has come back with another handle.

A rewriting is compared with the calls for the leaves, made from left to right and with nothing in
between. The two end in the same state, and `Shares` says what the result of the one has to do with
the results of the others. At an inner node it is derived from the children, where `SharesAll`
numbers them as their handles are numbered.
-/

set_option autoImplicit false

namespace SemanticQuery

variable {α σ : Type}

/-! ## Actions side by side -/

section Actions

variable {β β' γ γ' : Type}

/-- From every state the two actions end in the same state, and with results that are related. -/
def Matches (R : β → γ → Prop) (first : StateM σ β) (second : StateM σ γ) : Prop :=
  ∀ s, (Id.run (second.run s)).2 = (Id.run (first.run s)).2 ∧
    R (Id.run (first.run s)).1 (Id.run (second.run s)).1

/-- Doing nothing matches doing nothing, with related results. -/
theorem matches_pure {R : β → γ → Prop} {b : β} {c : γ} (h : R b c) :
    Matches R (pure b : StateM σ β) (pure c) :=
  fun _ => ⟨rfl, h⟩

/-- Actions that match are followed by actions that match. -/
theorem Matches.bind {R : β → γ → Prop} {R' : β' → γ' → Prop} {first : StateM σ β}
    {second : StateM σ γ} {next : β → StateM σ β'} {next' : γ → StateM σ γ'}
    (h : Matches R first second) (hnext : ∀ b c, R b c → Matches R' (next b) (next' c)) :
    Matches R' (first >>= next) (second >>= next') := by
  intro s
  obtain ⟨hstate, hrelated⟩ := h s
  have hrest := hnext _ _ hrelated (Id.run (first.run s)).2
  have hsecond : Id.run ((second >>= next').run s) =
      Id.run ((next' (Id.run (second.run s)).1).run (Id.run (first.run s)).2) := by
    rw [← hstate]
    rfl
  rw [hsecond]
  exact hrest

/-- What is made of the result of the second action may be related in another way. -/
theorem Matches.map_right {R : β → γ → Prop} {R' : β → γ' → Prop} {first : StateM σ β}
    {second : StateM σ γ} {g : γ → γ'} (h : Matches R first second)
    (hresult : ∀ b c, R b c → R' b (g c)) : Matches R' first (g <$> second) :=
  fun s => ⟨(h s).1, hresult _ _ (h s).2⟩

/-- To look at the results of a walk through a list is to look at each of them on the way. -/
theorem map_mapM {m : Type → Type} [Monad m] [LawfulMonad m] (view : β → β') (f : γ → m β)
    (l : List γ) : List.map view <$> l.mapM f = l.mapM fun c => view <$> f c := by
  induction l with
  | nil => rw [List.mapM_nil, List.mapM_nil, map_pure, List.map_nil]
  | cons c rest ih =>
    simp only [List.mapM_cons, ← ih, map_bind, map_pure, List.map_cons, bind_map_left]

end Actions

/-! ## Calls for leaves -/

/-- A function for leaves. What it hands back may be the leaf itself, another expression that was
there before or a new one, and the choice may depend on the handle and on a state. A handle stands
for one node, so whatever comes back with the handle of the leaf is the leaf. -/
structure LeafRewriter (α σ : Type) where
  call : SharedExpr α → StateM σ (SharedExpr (Origin α))
  expr_eq_of_handle : ∀ leaf s,
    (Id.run ((call leaf).run s)).1.handle = .old leaf.handle →
      (Id.run ((call leaf).run s)).1.expr = leaf.expr

/-- The rule that calls the function for every leaf and rebuilds every other node from its
children. -/
def SharingRewriter.onLeaves (g : LeafRewriter α σ) : SharingRewriter α (StateM σ) :=
  fun shared children => if shared.expr.isLeaf then g.call shared else children

/-- A call for the leaf at a place, which had a handle, and what has come back. -/
structure LeafCall (α : Type) where
  place : Address
  handle : α
  image : SharedExpr (Origin α)

namespace LeafCall

/-- The leaf has come back with its handle. -/
def Keeps (call : LeafCall α) : Prop :=
  call.image.handle = .old call.handle

instance [DecidableEq α] (call : LeafCall α) : Decidable call.Keeps :=
  inferInstanceAs (Decidable (call.image.handle = .old call.handle))

/-- The call, as one for a leaf below the parent. -/
def below (child : Nat) (call : LeafCall α) : LeafCall α :=
  { call with place := child :: call.place }

end LeafCall

namespace LeafRewriter

/-- Calls the function for the leaf at a place. -/
def callAt (g : LeafRewriter α σ) (handles : Handles α) (leaf : Address × Expr) :
    StateM σ (LeafCall α) := do
  return ⟨leaf.1, handles leaf.1, ← g.call ⟨leaf.2, fun address => handles (leaf.1 ++ address)⟩⟩

/-- The calls for the leaves below a child are those for the child by itself. -/
theorem mapM_callAt_leavesBelow (g : LeafRewriter α σ) (handles : Handles α) (child : Nat)
    (leaves : List (Address × Expr)) :
    (Expr.leavesBelow child leaves).mapM (g.callAt handles) =
      List.map (LeafCall.below child) <$> leaves.mapM (g.callAt (handles.below child)) := by
  rw [Expr.leavesBelow, List.mapM_map, map_mapM]
  rfl

end LeafRewriter

/-- Below a new node stand the children that it has been given. -/
theorem SharedExpr.handles_withChildren (shared : SharedExpr α)
    {children : List (SharedExpr (Origin α))} {i : Nat} {child : SharedExpr (Origin α)}
    (h : children[i]? = some child) (place : Address) :
    (shared.withChildren children).handles (i :: place) = child.handles place := by
  simp only [withChildren, h, Option.map_some, Option.getD_some]

namespace Expr

/-! ## Running a rule with handles -/

section Running

variable {m : Type → Type} [Monad m] [LawfulMonad m] [DecidableEq α]

/-- Two lists, one behind the other, are rewritten one after the other. -/
theorem rewriteAllSharing_append (rule : SharingRewriter α m) (child : Nat) (es es' : List Expr)
    (handles : Handles α) :
    rewriteAllSharing rule child (es ++ es') handles = (do
      let first ← rewriteAllSharing rule child es handles
      let rest ← rewriteAllSharing rule (child + es.length) es' handles
      return first ++ rest) := by
  induction es generalizing child with
  | nil =>
    simp only [rewriteAllSharing, pure_bind, List.nil_append, List.length_nil, Nat.add_zero,
      bind_pure]
  | cons e rest ih =>
    simp only [List.cons_append, rewriteAllSharing, ih, bind_assoc, pure_bind, List.length_cons,
      Nat.add_right_comm child 1, Nat.add_assoc]

/-- Rows are rewritten entry by entry. -/
theorem rewriteRowsSharing_eq_flatten (rule : SharingRewriter α m) (child : Nat)
    (rows : List (List Expr)) (handles : Handles α) :
    rewriteRowsSharing rule child rows handles =
      rewriteAllSharing rule child rows.flatten handles := by
  induction rows generalizing child with
  | nil => rfl
  | cons row rest ih => rw [rewriteRowsSharing, List.flatten_cons, rewriteAllSharing_append, ih]

/-- **One step of the rewriting.** A node is handed to the rule, with the action that rewrites its
children from left to right and rebuilds it from what has come back. -/
theorem rewriteSharing_eq (rule : SharingRewriter α m) (e : Expr) (handles : Handles α) :
    e.rewriteSharing rule handles =
      rule ⟨e, handles⟩
        (SharedExpr.rebuild ⟨e, handles⟩ <$> rewriteAllSharing rule 0 e.children handles) := by
  cases e
  case member arguments rows =>
    rw [rewriteSharing, children, rewriteAllSharing_append, rewriteRowsSharing_eq_flatten,
      Nat.zero_add]
  all_goals
    simp only [rewriteSharing, children, rewriteAllSharing, pure_bind, bind_assoc]

/-- A rule for leaves calls its function at a leaf. -/
theorem rewriteSharing_leaf (g : LeafRewriter α σ) {e : Expr} (h : e.isLeaf = true)
    (handles : Handles α) : e.rewriteSharing (.onLeaves g) handles = g.call ⟨e, handles⟩ := by
  rw [rewriteSharing_eq]
  exact if_pos h

/-- A rule for leaves rebuilds an inner node from its children. -/
theorem rewriteSharing_inner (g : LeafRewriter α σ) {e : Expr} (h : e.isLeaf = false)
    (handles : Handles α) :
    e.rewriteSharing (.onLeaves g) handles =
      SharedExpr.rebuild ⟨e, handles⟩ <$> rewriteAllSharing (.onLeaves g) 0 e.children handles := by
  rw [rewriteSharing_eq]
  exact if_neg (Bool.eq_false_iff.1 h)

end Running

/-! ## What is shared -/

/-- The calls for the leaves of an expression and the result of its rewriting: the leaves are
exchanged for what has come back for them, the node at a place has the handle that it had before
exactly if all calls for leaves at or below the place have kept their leaves, and what stands there
with this handle is what stood there before. -/
structure Shares (e : Expr) (handles : Handles α) (calls : List (LeafCall α))
    (result : SharedExpr (Origin α)) : Prop where
  places : e.Places (calls.map fun call => call.image.expr) result.expr
  at_place : ∀ place node, e.subexpr? place = some node →
    (result.handles place = .old (handles place) ↔
      ∀ call ∈ calls, place <+: call.place → call.Keeps) ∧
    (result.handles place = .old (handles place) → result.expr.subexpr? place = some node)

/-- The calls for the leaves of a list and the results for its entries, which are the children from
a given number on. -/
inductive SharesAll (handles : Handles α) :
    Nat → List Expr → List (LeafCall α) → List (SharedExpr (Origin α)) → Prop
  | nil (child : Nat) : SharesAll handles child [] [] []
  | cons {child : Nat} {e : Expr} {es : List Expr} {calls calls' : List (LeafCall α)}
      {result : SharedExpr (Origin α)} {results : List (SharedExpr (Origin α))}
      (first : Shares e (handles.below child) calls result)
      (rest : SharesAll handles (child + 1) es calls' results) :
      SharesAll handles child (e :: es) (calls.map (LeafCall.below child) ++ calls')
        (result :: results)

variable {e : Expr} {handles : Handles α} {calls : List (LeafCall α)}

/-- The root is kept exactly if all leaves are. -/
theorem Shares.handle_root_iff {result : SharedExpr (Origin α)}
    (h : Shares e handles calls result) :
    result.handle = .old (handles []) ↔ ∀ call ∈ calls, call.Keeps := by
  rw [SharedExpr.handle, (h.at_place [] e rfl).1]
  simp only [List.nil_prefix, true_imp_iff]

/-- With the handle that it had before the whole expression is what it was. -/
theorem Shares.expr_eq {result : SharedExpr (Origin α)} (h : Shares e handles calls result)
    (hkept : result.handle = .old (handles [])) : result.expr = e :=
  Option.some.inj ((h.at_place [] e rfl).2 hkept)

namespace SharesAll

variable {child : Nat} {es : List Expr} {results : List (SharedExpr (Origin α))}

/-- The entries become what their results are, by what has come back for the leaves. -/
theorem placesAll (h : SharesAll handles child es calls results) :
    PlacesAll es (calls.map fun call => call.image.expr) (results.map SharedExpr.expr) := by
  induction h with
  | nil => exact placesAll_nil
  | cons first rest ih =>
    rw [List.map_append, List.map_map]
    exact PlacesAll.cons first.places ih

/-- There is a result for every entry. -/
theorem length_eq (h : SharesAll handles child es calls results) : results.length = es.length := by
  induction h with
  | nil => rfl
  | cons first rest ih => rw [List.length_cons, List.length_cons, ih]

/-- All children have come back with their handles exactly if all leaves have. -/
theorem allKept_iff [DecidableEq α] (h : SharesAll handles child es calls results) :
    SharedExpr.allKept handles child results = true ↔ ∀ call ∈ calls, call.Keeps := by
  induction h with
  | nil => exact iff_of_true rfl (List.forall_mem_nil _)
  | @cons child _ _ calls calls' result _ first rest ih =>
    have hbelow : (∀ call ∈ calls.map (LeafCall.below child), call.Keeps) ↔
        ∀ call ∈ calls, call.Keeps := List.forall_mem_map
    rw [SharedExpr.allKept, Bool.and_eq_true, decide_eq_true_eq, ih, List.forall_mem_append, hbelow,
      ← first.handle_root_iff]
    rfl

/-- Children that have come back with their handles are what they were. -/
theorem map_expr_of_allKept [DecidableEq α] (h : SharesAll handles child es calls results)
    (hkept : SharedExpr.allKept handles child results = true) :
    results.map SharedExpr.expr = es := by
  induction h with
  | nil => rfl
  | cons first rest ih =>
    rw [SharedExpr.allKept, Bool.and_eq_true, decide_eq_true_eq] at hkept
    rw [List.map_cons, first.expr_eq hkept.1, ih hkept.2]

/-- The leaves called for are below the children from the given number on. -/
theorem exists_place (h : SharesAll handles child es calls results) :
    ∀ call ∈ calls, ∃ i place, call.place = (child + i) :: place := by
  induction h with
  | nil => exact List.forall_mem_nil _
  | @cons child _ _ calls _ _ _ first rest ih =>
    rw [List.forall_mem_append]
    constructor
    · rw [List.forall_mem_map]
      exact fun call _ => ⟨0, call.place, rfl⟩
    · intro call hcall
      obtain ⟨i, place, hplace⟩ := ih call hcall
      exact ⟨i + 1, place, by rw [hplace, Nat.add_assoc, Nat.add_comm 1]⟩

/-- Each child has its result, with the calls for the leaves below it. -/
theorem exists_shares (h : SharesAll handles child es calls results) {i : Nat} {e : Expr}
    (he : es[i]? = some e) :
    ∃ calls' result, results[i]? = some result ∧
      Shares e (handles.below (child + i)) calls' result ∧
      ∀ place, (∀ call ∈ calls, (child + i) :: place <+: call.place → call.Keeps) ↔
        ∀ call ∈ calls', place <+: call.place → call.Keeps := by
  induction h generalizing i with
  | nil => cases he
  | @cons child _ _ calls calls' result _ first rest ih =>
    cases i with
    | zero =>
      cases he
      refine ⟨calls, result, rfl, first, fun place => ?_⟩
      -- No call for another child is one for a leaf below the first.
      have hothers : ∀ call ∈ calls', (child + 0) :: place <+: call.place → call.Keeps := by
        intro call hcall hplace
        obtain ⟨j, address, haddress⟩ := rest.exists_place call hcall
        rw [haddress, List.cons_prefix_cons] at hplace
        omega
      rw [List.forall_mem_append, List.forall_mem_map, and_iff_left hothers]
      simp only [LeafCall.below, LeafCall.Keeps, List.cons_prefix_cons, Nat.add_zero, true_and]
    | succ i =>
      obtain ⟨callsBelow, result', hresult, hshares, hplaces⟩ := ih he
      rw [Nat.add_assoc, Nat.add_comm 1] at hshares hplaces
      refine ⟨callsBelow, result', hresult, hshares, fun place => ?_⟩
      -- No call for the first child is one for a leaf below another.
      have hfirst : ∀ call ∈ calls.map (LeafCall.below child),
          (child + (i + 1)) :: place <+: call.place → call.Keeps := by
        rw [List.forall_mem_map]
        intro call _ hplace
        rw [LeafCall.below, List.cons_prefix_cons] at hplace
        omega
      rw [List.forall_mem_append, and_iff_right hfirst]
      exact hplaces place

/-- **What is shared at an inner node**, from what is shared at its children. -/
theorem inner [DecidableEq α] {e : Expr} (hinner : e.isLeaf = false)
    (h : SharesAll handles 0 e.children calls results) :
    Shares e handles calls (SharedExpr.rebuild ⟨e, handles⟩ results) := by
  have hplaces := PlacesAll.inner hinner h.placesAll
  unfold SharedExpr.rebuild
  split
  next hkept =>
    have hall := h.allKept_iff.1 hkept
    rw [h.map_expr_of_allKept hkept, withChildren_children] at hplaces
    constructor
    · exact hplaces
    · intro place node hnode
      exact ⟨iff_of_true rfl fun call hcall _ => hall call hcall, fun _ => hnode⟩
  next hkept =>
    have hsome := mt h.allKept_iff.2 hkept
    have hlength : (results.map SharedExpr.expr).length = e.children.length := by
      rw [List.length_map, h.length_eq]
    constructor
    · exact hplaces
    · intro place node hnode
      cases place with
      | nil =>
        have hmade : Origin.made ≠ .old (handles []) := nofun
        simp only [List.nil_prefix, true_imp_iff]
        exact ⟨iff_of_false hmade hsome, fun hold => absurd hold hmade⟩
      | cons i place =>
        obtain ⟨child, hchild, hnode⟩ := Option.bind_eq_some_iff.1 hnode
        obtain ⟨calls', result, hresult, hshares, hbelow⟩ := h.exists_shares hchild
        rw [Nat.zero_add] at hshares hbelow
        obtain ⟨hiff, hsubexpr⟩ := hshares.at_place place node hnode
        rw [SharedExpr.handles_withChildren _ hresult, hbelow]
        refine ⟨hiff, fun hold => ?_⟩
        rw [SharedExpr.withChildren, subexpr?, children_withChildren hlength, List.getElem?_map,
          hresult]
        exact hsubexpr hold

end SharesAll

/-! ## The rewriting and the calls -/

section Calls

variable [DecidableEq α] {g : LeafRewriter α σ}

/-- The rewriting of an expression goes along with the calls for its leaves. -/
def SharesWithCalls (g : LeafRewriter α σ) (e : Expr) : Prop :=
  ∀ handles : Handles α, Matches (Shares e handles) (e.leavesAt.mapM (g.callAt handles))
    (e.rewriteSharing (.onLeaves g) handles)

/-- Rewriting a list goes along with the calls for the leaves of its entries, if so for every
entry. -/
theorem matches_rewriteAllSharing {es : List Expr} (h : ∀ e ∈ es, SharesWithCalls g e)
    (child : Nat) :
    Matches (SharesAll handles child es) ((leavesAtOfAll child es).mapM (g.callAt handles))
      (rewriteAllSharing (.onLeaves g) child es handles) := by
  induction es generalizing child with
  | nil => exact matches_pure (.nil child)
  | cons e rest ih =>
    rw [List.forall_mem_cons] at h
    rw [leavesAtOfAll, List.mapM_append, g.mapM_callAt_leavesBelow, bind_map_left,
      rewriteAllSharing]
    refine (h.1 (handles.below child)).bind fun calls result hfirst => ?_
    exact (ih h.2 (child + 1)).bind fun calls' results hrest => matches_pure (.cons hfirst hrest)

/-- At a leaf the one call is the rewriting. -/
theorem sharesWithCalls_leaf {e : Expr} (hleaf : e.isLeaf = true) : SharesWithCalls g e := by
  intro handles s
  rw [leavesAt_leaf hleaf, rewriteSharing_leaf g hleaf]
  let image := (Id.run ((g.call ⟨e, handles⟩).run s)).1
  have hshares : Shares e handles [⟨[], handles [], image⟩] image := by
    constructor
    · exact places_leaf hleaf image.expr
    · intro place node hnode
      obtain ⟨rfl, rfl⟩ := (subexpr?_leaf hleaf).1 hnode
      simp only [List.forall_mem_singleton, List.nil_prefix, true_imp_iff]
      refine ⟨Iff.rfl, fun hold => ?_⟩
      have hexpr : image.expr = e := g.expr_eq_of_handle ⟨e, handles⟩ s hold
      rw [hexpr]
      rfl
  exact ⟨rfl, hshares⟩

/-- **The rewriting goes along with the calls**, by induction on the expression. -/
theorem sharesWithCalls (g : LeafRewriter α σ) (e : Expr) : SharesWithCalls g e := by
  induction e using induct_children with
  | h e ih =>
    cases hleaf : e.isLeaf with
    | true => exact sharesWithCalls_leaf hleaf
    | false =>
      intro handles
      rw [leavesAt_inner hleaf, rewriteSharing_inner g hleaf]
      exact (matches_rewriteAllSharing ih 0).map_right fun calls results h => h.inner hleaf

end Calls

/-- Exchanging the leaves of the entries of a list goes along with the calls for them. -/
theorem matches_mapM_mapLeavesM {f : Expr → StateM σ Expr} {es : List Expr}
    (h : ∀ e ∈ es, Matches e.Places (e.leaves.mapM f) (e.mapLeavesM f)) :
    Matches (PlacesAll es) ((es.flatMap leaves).mapM f) (es.mapM (mapLeavesM f)) := by
  induction es with
  | nil => exact matches_pure placesAll_nil
  | cons e rest ih =>
    rw [List.forall_mem_cons] at h
    rw [List.flatMap_cons, List.mapM_append, List.mapM_cons]
    refine h.1.bind fun images result hfirst => ?_
    refine (ih h.2).bind fun images' results hrest => ?_
    exact matches_pure (PlacesAll.cons hfirst hrest)

/-- Exchanging the leaves with effects goes along with the calls for them. -/
theorem matches_mapLeavesM (f : Expr → StateM σ Expr) (e : Expr) :
    Matches e.Places (e.leaves.mapM f) (e.mapLeavesM f) := by
  induction e using induct_children with
  | h e ih =>
    cases hleaf : e.isLeaf with
    | true =>
      rw [leaves_of_isLeaf hleaf, mapLeavesM_leaf f hleaf]
      exact fun s => ⟨rfl, places_leaf hleaf _⟩
    | false =>
      rw [leaves_eq_children hleaf, mapLeavesM_inner f hleaf]
      exact (matches_mapM_mapLeavesM ih).map_right fun images results h => h.inner hleaf

end Expr

/-! ## Forgetting the handles -/

section Forgetting

/-- What a function for leaves that knows nothing of handles makes of a leaf: the leaf, or an
expression all of whose nodes have been made. -/
def SharedExpr.revised (leaf : SharedExpr α) : Revision → SharedExpr (Origin α)
  | none => leaf.kept
  | some e => ⟨e, fun _ => .made⟩

/-- The expression that a revision of a leaf leads to. -/
theorem SharedExpr.revised_expr (leaf : SharedExpr α) (revision : Revision) :
    (leaf.revised revision).expr = revision.applyTo leaf.expr := by
  cases revision <;> rfl

/-- A revision of a leaf has the handle of the leaf exactly if it keeps the leaf. -/
theorem SharedExpr.revised_handle_iff (leaf : SharedExpr α) (revision : Revision) :
    (leaf.revised revision).handle = .old leaf.handle ↔ revision = none := by
  cases revision with
  | none => exact iff_of_true rfl rfl
  | some e => exact iff_of_false nofun nofun

/-- A function for leaves that knows nothing of handles. -/
def LeafRewriter.ofRevisions (f : Expr → StateM σ Revision) : LeafRewriter α σ where
  call leaf := leaf.revised <$> f leaf.expr
  expr_eq_of_handle leaf s h := by
    have hkept : (Id.run ((f leaf.expr).run s)).1 = none := (leaf.revised_handle_iff _).1 h
    show (leaf.revised (Id.run ((f leaf.expr).run s)).1).expr = leaf.expr
    rw [hkept]
    rfl

/-- What the calls hand back for the leaves is what the function leads to. -/
theorem images_ofRevisions (f : Expr → StateM σ Revision) (e : Expr) (handles : Handles α) :
    List.map (fun call => call.image.expr) <$>
        e.leavesAt.mapM ((LeafRewriter.ofRevisions f).callAt handles) =
      e.leaves.mapM (calledAt f) := by
  rw [← e.map_snd_leavesAt, List.mapM_map, map_mapM]
  congr 1
  funext leaf
  simp only [LeafRewriter.callAt, LeafRewriter.ofRevisions, map_bind, map_pure, bind_map_left,
    SharedExpr.revised_expr]
  rfl

variable [DecidableEq α]

/-- The calls keep the leaves that the function keeps. -/
theorem keeps_ofRevisions (f : Expr → StateM σ Revision) (e : Expr) (handles : Handles α) :
    List.map (fun call => decide call.Keeps) <$>
        e.leavesAt.mapM ((LeafRewriter.ofRevisions f).callAt handles) =
      List.map Option.isNone <$> e.leaves.mapM f := by
  rw [← e.map_snd_leavesAt, List.mapM_map, map_mapM, map_mapM]
  congr 1
  funext leaf
  have hkeeps (revision : Revision) (place : Address) :
      decide (LeafCall.Keeps ⟨place, handles place,
        SharedExpr.revised ⟨leaf.2, fun address => handles (place ++ address)⟩ revision⟩) =
      revision.isNone := by
    cases revision <;> simp [LeafCall.Keeps, SharedExpr.revised, SharedExpr.kept, SharedExpr.handle]
  simp only [LeafRewriter.callAt, LeafRewriter.ofRevisions, map_bind, map_pure, bind_map_left,
    hkeeps]
  rfl

/-- **Without the handles** the rewriting is the one that runs on expressions alone. -/
theorem revision_rewriteSharing (f : Expr → StateM σ Revision) (e : Expr) (handles : Handles α) :
    SharedExpr.revision (handles []) <$> e.rewriteSharing (.onLeaves (.ofRevisions f)) handles =
      e.rewrite (.onLeaves f) := by
  apply StateT.ext
  intro start
  obtain ⟨revision, outcomes, final, hrun, houtcomes, hmapped, hrevision⟩ :=
    exists_rewrite_onLeaves_run f e start
  let calls := Id.run ((e.leavesAt.mapM ((LeafRewriter.ofRevisions f).callAt handles)).run start)
  let result := Id.run ((e.rewriteSharing (.onLeaves (.ofRevisions f)) handles).run start)
  obtain ⟨hstate, hshares⟩ : result.2 = calls.2 ∧ Expr.Shares e handles calls.1 result.1 :=
    Expr.sharesWithCalls (.ofRevisions f) e handles start
  have himages : (calls.1.map fun call => call.image.expr) =
      (Id.run ((e.leaves.mapM (calledAt f)).run start)).1 :=
    congrArg (fun action => (Id.run (action.run start)).1) (images_ofRevisions f e handles)
  have hkept : (calls.1.map fun call => decide call.Keeps, calls.2) =
      (outcomes.map Option.isNone, final) := by
    have hactions := congrArg (fun action => Id.run (action.run start))
      (keeps_ofRevisions f e handles)
    simpa only [StateT.run_map, Id.run_map, houtcomes] using hactions
  obtain ⟨hkept, hfinal⟩ := Prod.mk.inj hkept
  have hexpr : result.1.expr = revision.applyTo e := by
    have hplaces := (Expr.matches_mapLeavesM (calledAt f) e start).2
    rw [hmapped, ← himages] at hplaces
    exact hshares.places.unique hplaces
  have hroot : result.1.handle = .old (handles []) ↔ revision = none := by
    rw [hshares.handle_root_iff, hrevision]
    have hall := congrArg (fun kept => kept.all id) hkept
    rw [Bool.eq_iff_iff] at hall
    simpa using hall
  have hforgotten : SharedExpr.revision (handles []) result.1 = revision := by
    cases revision with
    | none => exact if_pos (hroot.2 rfl)
    | some e' =>
      rw [SharedExpr.revision, if_neg (mt hroot.1 nofun), hexpr]
      rfl
  calc (SharedExpr.revision (handles []) <$>
        e.rewriteSharing (.onLeaves (.ofRevisions f)) handles).run start
      = (SharedExpr.revision (handles []) result.1, result.2) := rfl
    _ = (revision, final) := by rw [hforgotten, hstate, hfinal]
    _ = (e.rewrite (.onLeaves f)).run start := hrun.symm

end Forgetting

/-! ## What a rewriting shares -/

/-- **A rewriter for leaves replaces the leaves and shares what it does not change.** The rewriting
of an expression whose nodes have handles ends in the same state as the calls for its leaves, made
from left to right. The result is the expression with what has come back in the places of its
leaves. At every place of the expression stands the node that was there before, and all that was
below it, exactly if each call for a leaf at or below this place has kept its leaf. The calls are
for the leaves in their order, each at the place where it stands.

Without the handles this is the rewriting that runs on expressions alone. It ends in the same state
and with the same expression as the plain structural map, and keeps the whole expression exactly if
every call has kept its leaf; for a function without a state this is to say that every leaf is kept.
Validation has more rules than those for leaves, and keeps every expression. -/
theorem rewrite_onLeaves_shares_maximally :
    (∀ (α σ : Type) [DecidableEq α] (g : LeafRewriter α σ) (e : Expr) (handles : Handles α)
        (start : σ),
      ∃ result calls final,
        Id.run ((e.rewriteSharing (.onLeaves g) handles).run start) = (result, final) ∧
        Id.run ((e.leavesAt.mapM (g.callAt handles)).run start) = (calls, final) ∧
        Id.run ((e.mapLeavesM Expr.takeNext).run (calls.map fun call => call.image.expr)) =
          (result.expr, []) ∧
        ∀ place node, e.subexpr? place = some node →
          (result.handles place = .old (handles place) ↔
            ∀ call ∈ calls, place <+: call.place → call.Keeps) ∧
          (result.handles place = .old (handles place) →
            result.expr.subexpr? place = some node)) ∧
    (∀ e : Expr, e.leavesAt.map Prod.snd = e.leaves ∧
      ∀ place leaf, (place, leaf) ∈ e.leavesAt ↔
        e.subexpr? place = some leaf ∧ leaf.isLeaf = true) ∧
    (∀ (α σ : Type) [DecidableEq α] (f : Expr → StateM σ Revision) (e : Expr)
        (handles : Handles α),
      SharedExpr.revision (handles []) <$> e.rewriteSharing (.onLeaves (.ofRevisions f)) handles =
        e.rewrite (.onLeaves f)) ∧
    (∀ (σ : Type) (f : Expr → StateM σ Revision) (e : Expr) (start : σ),
      ∃ revision outcomes final,
        Id.run ((e.rewrite (.onLeaves f)).run start) = (revision, final) ∧
        Id.run ((e.leaves.mapM f).run start) = (outcomes, final) ∧
        Id.run ((e.mapLeavesM (calledAt f)).run start) = (revision.applyTo e, final) ∧
        (revision = none ↔ ∀ outcome ∈ outcomes, outcome = none)) ∧
    (∀ (f : Expr → Revision) (e : Expr),
      let revision := Id.run (e.rewrite (.onLeaves fun a => pure (f a)))
      revision.applyTo e = e.mapLeaves (fun a => (f a).applyTo a) ∧
      (revision = none ↔ ∀ a ∈ e.leaves, f a = none)) ∧
    ∀ provider options found (e : Expr), (e.validateFrom provider options found).1 = none := by
  refine ⟨?_, ?_, ?_, ?_, ?_, ?_⟩
  · intro α σ _ g e handles start
    obtain ⟨hstate, hshares⟩ := Expr.sharesWithCalls g e handles start
    refine ⟨_, _, _, rfl, Prod.ext rfl hstate.symm, ?_, hshares.at_place⟩
    have hplaces := hshares.places []
    rwa [List.append_nil] at hplaces
  · intro e
    exact ⟨e.map_snd_leavesAt, fun place leaf => Expr.mem_leavesAt_iff⟩
  · intro α σ _ f e handles
    exact revision_rewriteSharing f e handles
  · intro σ f e start
    exact exists_rewrite_onLeaves_run f e start
  · intro f e
    have hrule := Rewriter.onLeaves_decidesBy fun a => (pure (f a) : Id Revision)
    exact ⟨applyTo_rewrite hrule e, rewrite_eq_none_iff hrule e⟩
  · intro provider options found e
    exact congrArg Prod.fst (walkRecords provider options e found)

/-- The sales of a region with a given amount. -/
def westernSales (amount : Int64) : Expr :=
  .and (.compare .equal (.column (.entity "s" "Sales" none) "Region") (.ofDatum (.text "West")))
    (.compare .equal (.column (.entity "s" "Sales" none) "Amount") (.ofDatum (.integer amount)))

/-- Adds one to an integer and counts how often. -/
def incrementInteger : Expr → StateM Nat Revision
  | .constant ⟨.integer n, _, _⟩ => do
      modify (· + 1)
      return some (.ofDatum (.integer (n + 1)))
  | _ => return none

/-- Another amount is another comparison of the amount and another conjunction. The comparison of
the region is shared, and so is the column of the amount. -/
theorem rewrite_onLeaves_shares_maximally_of_westernSales :
    let rewriter : LeafRewriter Address Nat := .ofRevisions incrementInteger
    let run := Id.run (((westernSales 1).rewriteSharing (.onLeaves rewriter) id).run 0)
    run.2 = 1 ∧ run.1.expr = westernSales 2 ∧
      run.1.handles [] ≠ .old [] ∧ run.1.handles [0] = .old [0] ∧
      run.1.handles [1] ≠ .old [1] ∧ run.1.handles [1, 0] = .old [1, 0] := by
  intro rewriter run
  obtain ⟨result, calls, final, hrun, hcalls, himages, hhandles⟩ :=
    rewrite_onLeaves_shares_maximally.1 Address Nat rewriter (westernSales 1) id 0
  have hresult : run = (result, final) := hrun
  obtain rfl : _ = calls := congrArg Prod.fst hcalls
  obtain rfl : _ = final := congrArg Prod.snd hcalls
  rw [hresult]
  refine ⟨rfl, ?_, ?_, ?_, ?_, ?_⟩
  · exact (congrArg Prod.fst himages).symm
  · exact mt (hhandles [] _ rfl).1.1 (by decide)
  · exact (hhandles [0] _ rfl).1.2 (by decide)
  · exact mt (hhandles [1] _ rfl).1.1 (by decide)
  · exact (hhandles [1, 0] _ rfl).1.2 (by decide)

end SemanticQuery
