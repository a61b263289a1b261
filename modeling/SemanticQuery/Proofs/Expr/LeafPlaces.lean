import SemanticQuery.Expr.SharedRewrite
import SemanticQuery.Proofs.Expr.Leaves
import SemanticQuery.Proofs.Expr.SharedNodes

/-!
# The places of leaves

A leaf is looked at with the place where it stands. An expression whose leaves are exchanged for
other expressions, in their order, is determined by the list of these: `Places` says which
expression it is, without a word about where the list has come from. Each inner node has the fields
that it had and its children in their order.

Both the leaves and the exchange follow the children of a node, and the equations to that effect
are all that is used later on.
-/

set_option autoImplicit false

namespace SemanticQuery

namespace Expr

/-! ## Other children -/

/-- Rows that get the entries they have are the rows that they were. -/
theorem dealRows_flatten (rows : List (List Expr)) : dealRows rows rows.flatten = rows := by
  induction rows with
  | nil => rfl
  | cons row rest ih => rw [dealRows, List.flatten_cons, List.take_left, List.drop_left, ih]

/-- A node with the children that it has is the node that it was. -/
theorem withChildren_children (e : Expr) : e.withChildren e.children = e := by
  cases e
  case member arguments rows =>
    rw [children, withChildren, List.take_left, List.drop_left, dealRows_flatten]
  all_goals rfl

/-- Rows that are dealt as many entries as they have got have these entries. -/
theorem flatten_dealRows {rows : List (List Expr)} {es : List Expr}
    (h : es.length = rows.flatten.length) : (dealRows rows es).flatten = es := by
  induction rows generalizing es with
  | nil => exact (List.eq_nil_of_length_eq_zero h).symm
  | cons row rest ih =>
    rw [List.flatten_cons, List.length_append] at h
    have hrest : (es.drop row.length).length = rest.flatten.length := by
      rw [List.length_drop, h, Nat.add_sub_cancel_left]
    rw [dealRows, List.flatten_cons, ih hrest, List.take_append_drop]

/-- A node that is given as many children as it has got has these children. -/
theorem children_withChildren {e : Expr} {es : List Expr} (h : es.length = e.children.length) :
    (e.withChildren es).children = es := by
  cases e
  case entity | constant | now | defaultValue | anyValue =>
    rw [List.eq_nil_of_length_eq_zero h]
    rfl
  case column | measure | aggregation | variation | hierarchy | level | nonempty | not | dateSpan
      | dateAdd =>
    obtain ⟨child, rfl⟩ := List.length_eq_one_iff.1 h
    rfl
  case and | or | compare | contains | startsWith =>
    obtain ⟨left, right, rfl⟩ := List.length_eq_two.1 h
    rfl
  case between =>
    obtain ⟨argument, lower, upper, rfl⟩ := List.length_eq_three.1 h
    rfl
  case member arguments rows =>
    rw [children, List.length_append] at h
    have hrows : (es.drop arguments.length).length = rows.flatten.length := by
      rw [List.length_drop, h, Nat.add_sub_cancel_left]
    rw [withChildren, children, flatten_dealRows hrows, List.take_append_drop]

section Effects

variable {m : Type → Type} [Monad m] {β : Type}

/-- Replacing the leaves of a leaf is to replace it. -/
theorem mapLeavesM_leaf (f : Expr → m Expr) {e : Expr} (h : e.isLeaf = true) :
    e.mapLeavesM f = f e := by
  cases e
  case entity | constant | now | defaultValue | anyValue => rfl
  all_goals cases h

variable [LawfulMonad m]

/-- What follows a walk through a list may rely on as many results as the list has entries. -/
theorem bind_mapM_congr {f : Expr → m Expr} {es : List Expr} {g g' : List Expr → m β}
    (h : ∀ results : List Expr, results.length = es.length → g results = g' results) :
    es.mapM f >>= g = es.mapM f >>= g' := by
  induction es generalizing g g' with
  | nil => simp only [List.mapM_nil, pure_bind, h [] rfl]
  | cons e rest ih =>
    simp only [List.mapM_cons, bind_assoc, pure_bind]
    congr 1
    funext result
    apply ih
    intro results hlength
    apply h
    rw [List.length_cons, List.length_cons, hlength]

/-- Replacing the leaves of a list with effects goes entry by entry. -/
theorem mapLeavesOfAllM_eq_mapM (f : Expr → m Expr) (es : List Expr) :
    mapLeavesOfAllM f es = es.mapM (mapLeavesM f) := by
  induction es with
  | nil => rfl
  | cons e rest ih => rw [mapLeavesOfAllM, ih, List.mapM_cons]

/-- Replacing the leaves of rows with effects goes entry by entry, and every row has as many entries
afterwards as it had before. -/
theorem mapLeavesOfRowsM_eq_mapM (f : Expr → m Expr) (rows : List (List Expr)) :
    mapLeavesOfRowsM f rows = dealRows rows <$> rows.flatten.mapM (mapLeavesM f) := by
  induction rows with
  | nil => simp only [mapLeavesOfRowsM, List.flatten_nil, List.mapM_nil, map_pure, dealRows]
  | cons row rest ih =>
    simp only [mapLeavesOfRowsM, ih, mapLeavesOfAllM_eq_mapM, List.flatten_cons, List.mapM_append,
      map_bind, map_pure, bind_map_left]
    apply bind_mapM_congr
    intro results hlength
    simp only [dealRows, List.take_left' hlength, List.drop_left' hlength]

/-- Replacing the leaves of an inner node with effects goes child by child. -/
theorem mapLeavesM_inner (f : Expr → m Expr) {e : Expr} (h : e.isLeaf = false) :
    e.mapLeavesM f = e.withChildren <$> e.children.mapM (mapLeavesM f) := by
  cases e
  case entity | constant | now | defaultValue | anyValue => cases h
  case member arguments rows =>
    simp only [mapLeavesM, mapLeavesOfAllM_eq_mapM, mapLeavesOfRowsM_eq_mapM, children,
      List.mapM_append, map_bind, map_pure, bind_map_left]
    apply bind_mapM_congr
    intro results hlength
    simp only [withChildren, List.take_left' hlength, List.drop_left' hlength]
  all_goals
    simp only [mapLeavesM, children, withChildren, List.mapM_cons, List.mapM_nil, map_bind,
      map_pure, bind_assoc, pure_bind]

end Effects

/-! ## Leaves and their places -/

/-- The places below a child, as places below its parent. -/
def leavesBelow (child : Nat) (leaves : List (Address × Expr)) : List (Address × Expr) :=
  leaves.map fun leaf => (child :: leaf.1, leaf.2)

mutual

/-- The leaves of an expression, from left to right, with their places. -/
def leavesAt (e : Expr) : List (Address × Expr) :=
  match e with
  | entity _ _ _ | constant _ | now | defaultValue | anyValue => [([], e)]
  | column child _ | measure child _ | aggregation _ child | variation child _ _
  | hierarchy child _ | level child _ | nonempty child | not child | dateSpan _ child
  | dateAdd _ _ child => leavesBelow 0 (leavesAt child)
  | and left right | or left right | compare _ left right | contains left right
  | startsWith left right => leavesBelow 0 (leavesAt left) ++ leavesBelow 1 (leavesAt right)
  | between argument lower upper =>
      leavesBelow 0 (leavesAt argument) ++
        (leavesBelow 1 (leavesAt lower) ++ leavesBelow 2 (leavesAt upper))
  | member arguments rows => leavesAtOfAll 0 arguments ++ leavesAtOfRows arguments.length rows

/-- The leaves of a list whose entries are the children from a given number on. -/
def leavesAtOfAll (child : Nat) : List Expr → List (Address × Expr)
  | [] => []
  | e :: rest => leavesBelow child (leavesAt e) ++ leavesAtOfAll (child + 1) rest

/-- The leaves of rows whose entries are the children from a given number on. -/
def leavesAtOfRows (child : Nat) : List (List Expr) → List (Address × Expr)
  | [] => []
  | row :: rest => leavesAtOfAll child row ++ leavesAtOfRows (child + row.length) rest

end

/-- The leaves of two lists, one behind the other. -/
theorem leavesAtOfAll_append (child : Nat) (es es' : List Expr) :
    leavesAtOfAll child (es ++ es') =
      leavesAtOfAll child es ++ leavesAtOfAll (child + es.length) es' := by
  induction es generalizing child with
  | nil => rfl
  | cons e rest ih =>
    rw [List.cons_append, leavesAtOfAll, leavesAtOfAll, ih, List.append_assoc, List.length_cons,
      Nat.add_right_comm, Nat.add_assoc]

/-- The leaves of rows are those of their entries. -/
theorem leavesAtOfRows_eq_flatten (child : Nat) (rows : List (List Expr)) :
    leavesAtOfRows child rows = leavesAtOfAll child rows.flatten := by
  induction rows generalizing child with
  | nil => rfl
  | cons row rest ih => rw [leavesAtOfRows, ih, List.flatten_cons, leavesAtOfAll_append]

/-- A leaf stands at its own root. -/
theorem leavesAt_leaf {e : Expr} (h : e.isLeaf = true) : e.leavesAt = [([], e)] := by
  cases e
  case entity | constant | now | defaultValue | anyValue => rfl
  all_goals cases h

/-- The leaves of an inner node are those of its children. -/
theorem leavesAt_inner {e : Expr} (h : e.isLeaf = false) :
    e.leavesAt = leavesAtOfAll 0 e.children := by
  cases e
  case entity | constant | now | defaultValue | anyValue => cases h
  case member arguments rows =>
    rw [leavesAt, leavesAtOfRows_eq_flatten, children, leavesAtOfAll_append, Nat.zero_add]
  all_goals simp only [leavesAt, children, leavesAtOfAll, List.append_nil, Nat.zero_add]

/-- Without their places they are the leaves of the entries, if so for every entry. -/
theorem map_snd_leavesAtOfAll {es : List Expr}
    (h : ∀ e ∈ es, e.leavesAt.map Prod.snd = e.leaves) (child : Nat) :
    (leavesAtOfAll child es).map Prod.snd = es.flatMap leaves := by
  induction es generalizing child with
  | nil => rfl
  | cons e rest ih =>
    rw [List.forall_mem_cons] at h
    rw [leavesAtOfAll, List.map_append, ih h.2, List.flatMap_cons, ← h.1, leavesBelow,
      List.map_map]
    rfl

/-- Without their places they are the leaves of the expression. -/
theorem map_snd_leavesAt (e : Expr) : e.leavesAt.map Prod.snd = e.leaves := by
  induction e using induct_children with
  | h e ih =>
    cases hleaf : e.isLeaf with
    | true => rw [leavesAt_leaf hleaf, leaves_of_isLeaf hleaf, List.map_singleton]
    | false => rw [leavesAt_inner hleaf, leaves_eq_children hleaf, map_snd_leavesAtOfAll ih]

/-- A place among the leaves of a list is one in an entry, below the number of the entry. -/
theorem mem_leavesAtOfAll_iff {child : Nat} {es : List Expr} {leaf : Address × Expr} :
    leaf ∈ leavesAtOfAll child es ↔
      ∃ i place e, es[i]? = some e ∧ leaf.1 = (child + i) :: place ∧
        (place, leaf.2) ∈ e.leavesAt := by
  induction es generalizing child with
  | nil => simp [leavesAtOfAll]
  | cons e rest ih =>
    rw [leavesAtOfAll, List.mem_append, ih]
    constructor
    · rintro (hfirst | ⟨i, place, e', he', hplace, hleaf⟩)
      · obtain ⟨below, hbelow, rfl⟩ := List.mem_map.1 hfirst
        exact ⟨0, below.1, e, rfl, rfl, hbelow⟩
      · exact ⟨i + 1, place, e', he', by rw [hplace, Nat.add_assoc, Nat.add_comm 1], hleaf⟩
    · rintro ⟨i | i, place, e', he', hplace, hleaf⟩
      · cases he'
        exact .inl (List.mem_map.2 ⟨(place, leaf.2), hleaf, Prod.ext hplace.symm rfl⟩)
      · exact .inr ⟨i, place, e', he', by rw [hplace, Nat.add_assoc, Nat.add_comm 1], hleaf⟩

/-- The only place in a leaf is its root. -/
theorem subexpr?_leaf {e node : Expr} {place : Address} (hleaf : e.isLeaf = true) :
    e.subexpr? place = some node ↔ place = [] ∧ e = node := by
  cases place with
  | nil => simp only [subexpr?, Option.some.injEq, true_and]
  | cons i place => simp [subexpr?, children_of_isLeaf hleaf]

/-- **The places of leaves** are those where a leaf stands. -/
theorem mem_leavesAt_iff {e leaf : Expr} {place : Address} :
    (place, leaf) ∈ e.leavesAt ↔ e.subexpr? place = some leaf ∧ leaf.isLeaf = true := by
  induction e using induct_children generalizing place with
  | h e ih =>
    cases hleaf : e.isLeaf with
    | true =>
      rw [leavesAt_leaf hleaf, List.mem_singleton, Prod.mk.injEq, subexpr?_leaf hleaf]
      constructor
      · rintro ⟨rfl, rfl⟩
        exact ⟨⟨rfl, rfl⟩, hleaf⟩
      · rintro ⟨⟨rfl, rfl⟩, -⟩
        exact ⟨rfl, rfl⟩
    | false =>
      rw [leavesAt_inner hleaf, mem_leavesAtOfAll_iff]
      simp only [Nat.zero_add]
      constructor
      · rintro ⟨i, place, child, hchild, rfl, hmem⟩
        rw [subexpr?, hchild, Option.bind_some]
        exact (ih child (List.mem_of_getElem? hchild)).1 hmem
      · rintro ⟨hnode, hnodeLeaf⟩
        cases place with
        | nil =>
          cases hnode
          rw [hleaf] at hnodeLeaf
          cases hnodeLeaf
        | cons i place =>
          obtain ⟨child, hchild, hnode⟩ := Option.bind_eq_some_iff.1 hnode
          have hmem := (ih child (List.mem_of_getElem? hchild)).2 ⟨hnode, hnodeLeaf⟩
          exact ⟨i, place, child, hchild, rfl, hmem⟩

/-! ## Exchanging leaves -/

/-- Takes the next of the given expressions, as long as there is one. -/
def takeNext (a : Expr) : StateM (List Expr) Expr :=
  modifyGet fun
    | [] => (a, [])
    | image :: rest => (image, rest)

/-- The expression becomes another one when its leaves are exchanged, one after the other, for the
given images. -/
def Places (e : Expr) (images : List Expr) (result : Expr) : Prop :=
  ∀ rest, Id.run ((e.mapLeavesM takeNext).run (images ++ rest)) = (result, rest)

/-- The expressions become others when their leaves are exchanged for the given images. -/
def PlacesAll (es : List Expr) (images results : List Expr) : Prop :=
  ∀ rest, Id.run ((es.mapM (mapLeavesM takeNext)).run (images ++ rest)) = (results, rest)

/-- A leaf becomes its image. -/
theorem places_leaf {a : Expr} (h : a.isLeaf = true) (image : Expr) : Places a [image] image := by
  intro rest
  rw [mapLeavesM_leaf takeNext h]
  rfl

/-- Where there is nothing no image is used. -/
theorem placesAll_nil : PlacesAll [] [] [] :=
  fun _ => rfl

/-- The images for the first entry come before those for the others. -/
theorem PlacesAll.cons {e result : Expr} {es images images' results : List Expr}
    (h : Places e images result) (hrest : PlacesAll es images' results) :
    PlacesAll (e :: es) (images ++ images') (result :: results) := by
  intro rest
  rw [List.append_assoc, List.mapM_cons]
  have hfirst := h (images' ++ rest)
  have hothers := hrest rest
  simp only [StateT.run_bind, Id.run_bind, hfirst, hothers]
  rfl

/-- There is one such expression. -/
theorem Places.unique {e result result' : Expr} {images : List Expr}
    (h : Places e images result) (h' : Places e images result') : result = result' :=
  congrArg Prod.fst ((h []).symm.trans (h' []))

/-- An inner node becomes the node with what its children become. -/
theorem PlacesAll.inner {e : Expr} {images results : List Expr} (hinner : e.isLeaf = false)
    (h : PlacesAll e.children images results) : Places e images (e.withChildren results) := by
  intro rest
  have hchildren := h rest
  rw [mapLeavesM_inner takeNext hinner]
  simp only [StateT.run_map, Id.run_map, hchildren]

end Expr

end SemanticQuery
