import SemanticQuery.Proofs.Expr.Induction

/-!
# Leaves

The leaves are the nodes without children: entities, constants and the three placeholders. `leaves`
lists them from left to right, and `mapLeaves` replaces each of them while it builds the inner nodes
anew with all their fields. `mapLeavesM` does so by a function with effects, one leaf after the
other.
-/

set_option autoImplicit false

namespace SemanticQuery

namespace Expr

/-- Tells whether a node has no children. -/
def isLeaf : Expr → Bool
  | entity _ _ _ => true
  | constant _ => true
  | now => true
  | defaultValue => true
  | anyValue => true
  | _ => false

mutual

/-- The expression with every leaf replaced. -/
def mapLeaves (f : Expr → Expr) : Expr → Expr
  | entity schema name localName => f (entity schema name localName)
  | column source name => column (mapLeaves f source) name
  | measure source name => measure (mapLeaves f source) name
  | aggregation function argument => aggregation function (mapLeaves f argument)
  | variation source name property => variation (mapLeaves f source) name property
  | hierarchy source name => hierarchy (mapLeaves f source) name
  | level source name => level (mapLeaves f source) name
  | and left right => and (mapLeaves f left) (mapLeaves f right)
  | or left right => or (mapLeaves f left) (mapLeaves f right)
  | compare comparison left right => compare comparison (mapLeaves f left) (mapLeaves f right)
  | between argument lower upper =>
      between (mapLeaves f argument) (mapLeaves f lower) (mapLeaves f upper)
  | member arguments rows => member (mapLeavesOfAll f arguments) (mapLeavesOfRows f rows)
  | contains left right => contains (mapLeaves f left) (mapLeaves f right)
  | startsWith left right => startsWith (mapLeaves f left) (mapLeaves f right)
  | nonempty argument => nonempty (mapLeaves f argument)
  | not argument => not (mapLeaves f argument)
  | constant value => f (constant value)
  | dateSpan unit argument => dateSpan unit (mapLeaves f argument)
  | dateAdd unit amount argument => dateAdd unit amount (mapLeaves f argument)
  | now => f now
  | defaultValue => f defaultValue
  | anyValue => f anyValue

/-- The list with every leaf of its entries replaced. -/
def mapLeavesOfAll (f : Expr → Expr) : List Expr → List Expr
  | [] => []
  | e :: rest => mapLeaves f e :: mapLeavesOfAll f rest

/-- The rows with every leaf of their entries replaced. -/
def mapLeavesOfRows (f : Expr → Expr) : List (List Expr) → List (List Expr)
  | [] => []
  | row :: rest => mapLeavesOfAll f row :: mapLeavesOfRows f rest

end

/-- Replacing the leaves of a list goes entry by entry. -/
theorem mapLeavesOfAll_eq_map (f : Expr → Expr) (es : List Expr) :
    mapLeavesOfAll f es = es.map (mapLeaves f) := by
  induction es with
  | nil => rfl
  | cons e rest ih => rw [mapLeavesOfAll, ih, List.map_cons]

/-- Replacing the leaves of rows goes row by row. -/
theorem mapLeavesOfRows_eq_map (f : Expr → Expr) (rows : List (List Expr)) :
    mapLeavesOfRows f rows = rows.map (List.map (mapLeaves f)) := by
  induction rows with
  | nil => rfl
  | cons row rest ih => rw [mapLeavesOfRows, ih, mapLeavesOfAll_eq_map, List.map_cons]

/-! ## The list of leaves -/

/-- The leaves of an expression, from left to right. -/
def leaves (e : Expr) : List Expr :=
  e.nodes.filter isLeaf

/-- The leaves of an expression are those of its nodes that have no children. -/
theorem mem_leaves_iff (a e : Expr) : a ∈ e.leaves ↔ a ∈ e.nodes ∧ a.isLeaf = true := by
  rw [leaves, List.mem_filter]

/-- A leaf is its only node. -/
theorem nodes_of_isLeaf {e : Expr} (h : e.isLeaf = true) : e.nodes = [e] := by
  cases e with
  | entity | constant | now | defaultValue | anyValue => rfl
  | _ => cases h

/-- A leaf has no children. -/
theorem children_of_isLeaf {e : Expr} (h : e.isLeaf = true) : e.children = [] := by
  cases e with
  | entity | constant | now | defaultValue | anyValue => rfl
  | _ => cases h

/-- A leaf is its only leaf. -/
theorem leaves_of_isLeaf {e : Expr} (h : e.isLeaf = true) : e.leaves = [e] := by
  rw [leaves, nodes_of_isLeaf h]
  exact List.filter_cons_of_pos h

/-- An inner node is no leaf, so its leaves are those of its children. -/
theorem leaves_eq_children {e : Expr} (h : e.isLeaf = false) :
    e.leaves = e.children.flatMap leaves := by
  have hself : [e].filter isLeaf = [] := List.filter_cons_of_neg (Bool.eq_false_iff.1 h)
  rw [leaves, nodes_eq_children, List.filter_append, hself, List.append_nil, List.filter_flatMap]
  rfl

/-- The leaves of a membership are those of its arguments and then those of its rows. -/
theorem leaves_member (arguments : List Expr) (rows : List (List Expr)) :
    (member arguments rows).leaves =
      arguments.flatMap leaves ++ rows.flatMap fun row => row.flatMap leaves := by
  have hself : [member arguments rows].filter isLeaf = [] := rfl
  rw [leaves, nodes, nodesOfAll_eq_flatMap, nodesOfRows_eq_flatMap, List.filter_append,
    List.filter_append, hself, List.append_nil, List.filter_flatMap, List.filter_flatMap]
  simp only [List.filter_flatMap]
  rfl

/-! ## Replacing leaves with effects -/

section Effects

variable {m : Type → Type} [Monad m]

mutual

/-- The expression with every leaf replaced, one after the other, by a function that may have
effects. -/
def mapLeavesM (f : Expr → m Expr) : Expr → m Expr
  | entity schema name localName => f (entity schema name localName)
  | column source name => do return column (← mapLeavesM f source) name
  | measure source name => do return measure (← mapLeavesM f source) name
  | aggregation function argument => do return aggregation function (← mapLeavesM f argument)
  | variation source name property => do return variation (← mapLeavesM f source) name property
  | hierarchy source name => do return hierarchy (← mapLeavesM f source) name
  | level source name => do return level (← mapLeavesM f source) name
  | and left right => do return and (← mapLeavesM f left) (← mapLeavesM f right)
  | or left right => do return or (← mapLeavesM f left) (← mapLeavesM f right)
  | compare comparison left right => do
      return compare comparison (← mapLeavesM f left) (← mapLeavesM f right)
  | between argument lower upper => do
      return between (← mapLeavesM f argument) (← mapLeavesM f lower) (← mapLeavesM f upper)
  | member arguments rows => do
      return member (← mapLeavesOfAllM f arguments) (← mapLeavesOfRowsM f rows)
  | contains left right => do return contains (← mapLeavesM f left) (← mapLeavesM f right)
  | startsWith left right => do return startsWith (← mapLeavesM f left) (← mapLeavesM f right)
  | nonempty argument => do return nonempty (← mapLeavesM f argument)
  | not argument => do return not (← mapLeavesM f argument)
  | constant value => f (constant value)
  | dateSpan unit argument => do return dateSpan unit (← mapLeavesM f argument)
  | dateAdd unit amount argument => do return dateAdd unit amount (← mapLeavesM f argument)
  | now => f now
  | defaultValue => f defaultValue
  | anyValue => f anyValue

/-- The list with every leaf of its entries replaced. -/
def mapLeavesOfAllM (f : Expr → m Expr) : List Expr → m (List Expr)
  | [] => pure []
  | e :: rest => do return (← mapLeavesM f e) :: (← mapLeavesOfAllM f rest)

/-- The rows with every leaf of their entries replaced. -/
def mapLeavesOfRowsM (f : Expr → m Expr) : List (List Expr) → m (List (List Expr))
  | [] => pure []
  | row :: rest => do return (← mapLeavesOfAllM f row) :: (← mapLeavesOfRowsM f rest)

end

variable [LawfulMonad m]

/-- Without effects the leaves of a list are replaced all the same, if so for every entry. -/
theorem mapLeavesOfAllM_pure {f : Expr → Expr} {es : List Expr}
    (h : ∀ e ∈ es, e.mapLeavesM (fun a => (pure (f a) : m Expr)) = pure (e.mapLeaves f)) :
    mapLeavesOfAllM (fun a => (pure (f a) : m Expr)) es = pure (mapLeavesOfAll f es) := by
  induction es with
  | nil => rfl
  | cons e rest ih =>
    rw [List.forall_mem_cons] at h
    simp only [mapLeavesOfAllM, mapLeavesOfAll, h.1, ih h.2, pure_bind]

/-- Without effects the leaves of rows are replaced all the same, if so for every entry. -/
theorem mapLeavesOfRowsM_pure {f : Expr → Expr} {rows : List (List Expr)}
    (h : ∀ row ∈ rows, ∀ e ∈ row,
      e.mapLeavesM (fun a => (pure (f a) : m Expr)) = pure (e.mapLeaves f)) :
    mapLeavesOfRowsM (fun a => (pure (f a) : m Expr)) rows = pure (mapLeavesOfRows f rows) := by
  induction rows with
  | nil => rfl
  | cons row rest ih =>
    rw [List.forall_mem_cons] at h
    simp only [mapLeavesOfRowsM, mapLeavesOfRows, mapLeavesOfAllM_pure h.1, ih h.2, pure_bind]

/-- Without effects the leaves are replaced all the same. -/
theorem mapLeavesM_pure (f : Expr → Expr) (e : Expr) :
    e.mapLeavesM (fun a => (pure (f a) : m Expr)) = pure (e.mapLeaves f) := by
  induction e
  case member arguments rows iharguments ihrows =>
    simp only [mapLeavesM, mapLeaves, mapLeavesOfAllM_pure iharguments,
      mapLeavesOfRowsM_pure ihrows, pure_bind]
  all_goals simp_all only [mapLeavesM, mapLeaves, pure_bind]

end Effects

/-! ## Local names -/

/-- An entity without its local name, and any other node as it is. -/
def anonymous : Expr → Expr
  | entity schema name _ => entity schema name none
  | e => e

/-- Without its local name a leaf is a leaf. -/
theorem isLeaf_anonymous {e : Expr} (h : e.isLeaf = true) : e.anonymous.isLeaf = true := by
  cases e with
  | entity => rfl
  | _ => exact h

end Expr

end SemanticQuery
