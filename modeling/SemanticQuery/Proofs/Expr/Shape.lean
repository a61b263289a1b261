import SemanticQuery.Proofs.Expr.Equality
import SemanticQuery.Proofs.Expr.Leaves

/-!
# Shape and leaves

An expression consists of its shape, which is everything about its inner nodes, and of its leaves
from left to right. `equal_iff_shape_leaves` takes equality apart in this way: two expressions are
equal exactly when they have the same shape and their leaves are equal pairwise. What equality looks
past, the local names of entities and the case of texts, is found in the leaves, so the laws of
equality are those of pairwise related lists together with a few facts about single leaves.

Replacing leaves by leaves keeps the shape and acts on the list of leaves.
-/

set_option autoImplicit false

namespace SemanticQuery.Expr

variable {ignoreCase : Bool} {x y : Expr}

/-- The expression with one and the same leaf in the place of every leaf. -/
def shape (e : Expr) : Expr :=
  e.mapLeaves fun _ => .now

/-- The shape of a leaf, and of nothing else, is the placeholder for leaves. -/
theorem shape_eq_now_iff (e : Expr) : e.shape = .now ↔ e.isLeaf = true := by
  cases e <;> simp [shape, mapLeaves, isLeaf]

/-- The shape of a membership has the shapes of its arguments and entries. -/
theorem shape_member (arguments : List Expr) (rows : List (List Expr)) :
    (member arguments rows).shape =
      .member (arguments.map shape) (rows.map fun row => row.map shape) := by
  rw [shape, mapLeaves, mapLeavesOfAll_eq_map, mapLeavesOfRows_eq_map]
  rfl

/-! ## Replacing leaves by leaves -/

section Replacing

variable {f : Expr → Expr}

/-- Replacing the leaves of a leaf is to replace it. -/
theorem mapLeaves_of_isLeaf {e : Expr} (h : e.isLeaf = true) : e.mapLeaves f = f e := by
  cases e with
  | entity | constant | now | defaultValue | anyValue => rfl
  | _ => cases h

/-- Replacing the leaves of an inner node goes child by child. -/
theorem children_mapLeaves {e : Expr} (h : e.isLeaf = false) :
    (e.mapLeaves f).children = e.children.map (mapLeaves f) := by
  cases e with
  | entity | constant | now | defaultValue | anyValue => cases h
  | member =>
    simp only [mapLeaves, children, mapLeavesOfAll_eq_map, mapLeavesOfRows_eq_map,
      List.map_append, List.map_flatten]
  | _ => rfl

/-- Replacing leaves by leaves makes no leaf of an inner node, nor the other way round. -/
theorem isLeaf_mapLeaves (hf : ∀ a, a.isLeaf = true → (f a).isLeaf = true) (e : Expr) :
    (e.mapLeaves f).isLeaf = e.isLeaf := by
  cases e with
  | entity | constant | now | defaultValue | anyValue => exact hf _ rfl
  | _ => rfl

/-- The nodes of the new expression are the old ones, each with its own leaves replaced. -/
theorem nodes_mapLeaves (hf : ∀ a, a.isLeaf = true → (f a).isLeaf = true) (e : Expr) :
    (e.mapLeaves f).nodes = e.nodes.map (mapLeaves f) := by
  induction e using induct_children with
  | h e ih =>
    cases hleaf : e.isLeaf with
    | true =>
      rw [nodes_of_isLeaf hleaf, List.map_singleton, mapLeaves_of_isLeaf hleaf]
      exact nodes_of_isLeaf (hf e hleaf)
    | false =>
      rw [nodes_eq_children, nodes_eq_children e, children_mapLeaves hleaf, List.flatMap_map,
        List.map_append, List.map_flatMap, List.flatMap_congr ih]
      rfl

/-- Replacing leaves by leaves replaces the entries in the list of leaves. -/
theorem leaves_mapLeaves (hf : ∀ a, a.isLeaf = true → (f a).isLeaf = true) (e : Expr) :
    (e.mapLeaves f).leaves = e.leaves.map f := by
  have hsame : isLeaf ∘ mapLeaves f = isLeaf := funext (isLeaf_mapLeaves hf)
  rw [leaves, nodes_mapLeaves hf, List.filter_map, hsame]
  apply List.map_congr_left
  intro a ha
  exact mapLeaves_of_isLeaf (List.mem_filter.1 ha).2

/-- Replacing leaves by leaves keeps the shape. -/
theorem shape_mapLeaves (hf : ∀ a, a.isLeaf = true → (f a).isLeaf = true) (e : Expr) :
    (e.mapLeaves f).shape = e.shape := by
  induction e
  case entity | constant | now | defaultValue | anyValue =>
    exact (shape_eq_now_iff _).2 (hf _ rfl)
  case member iharguments ihrows =>
    rw [mapLeaves, mapLeavesOfAll_eq_map, mapLeavesOfRows_eq_map, shape_member, shape_member,
      List.map_map, List.map_map]
    congr 1
    · exact List.map_congr_left iharguments
    · apply List.map_congr_left
      intro row hrow
      exact (List.map_map ..).trans (List.map_congr_left (ihrows row hrow))
  all_goals simp_all [mapLeaves, shape]

/-- An expression is kept when all its leaves are. -/
theorem mapLeaves_eq_self {e : Expr} (h : ∀ a ∈ e.leaves, f a = a) : e.mapLeaves f = e := by
  induction e
  case entity | constant | now | defaultValue | anyValue => exact h _ (List.mem_cons_self ..)
  case member iharguments ihrows =>
    rw [leaves_member] at h
    simp only [List.mem_append, List.mem_flatMap] at h
    rw [mapLeaves, mapLeavesOfAll_eq_map, mapLeavesOfRows_eq_map]
    congr 1
    · refine (List.map_congr_left fun e he => ?_).trans (List.map_id _)
      exact iharguments e he fun a ha => h a (.inl ⟨e, he, ha⟩)
    · refine (List.map_congr_left fun row hrow => ?_).trans (List.map_id _)
      refine (List.map_congr_left fun e he => ?_).trans (List.map_id _)
      exact ihrows row hrow e he fun a ha => h a (.inr ⟨row, hrow, e, he, ha⟩)
  all_goals simp_all [leaves, mapLeaves, nodes, isLeaf]

end Replacing

/-- Expressions of one shape have equally many leaves. -/
theorem length_leaves_of_shape (h : x.shape = y.shape) :
    x.leaves.length = y.leaves.length := by
  have hleaves (e : Expr) : e.shape.leaves = e.leaves.map fun _ => .now :=
    leaves_mapLeaves (fun _ _ => rfl) e
  have hlength := congrArg List.length (congrArg leaves h)
  rwa [hleaves, hleaves, List.length_map, List.length_map] at hlength

/-! ## Equality taken apart -/

/-- The leaves of equal expressions are equal pairwise. -/
theorem Equal.leaves (h : Equal ignoreCase x y) :
    List.Forall₂ (Equal ignoreCase) x.leaves y.leaves := by
  refine List.rel_filter (fun node node' hnode => ?_) h.nodes
  cases hnode <;> rfl

/-- Equal expressions are led to the same expression when equal leaves are. -/
theorem Equal.mapLeaves_eq {f g : Expr → Expr} (h : Equal ignoreCase x y)
    (hleaf : ∀ a b, a.isLeaf = true → Equal ignoreCase a b → f a = g b) :
    x.mapLeaves f = y.mapLeaves g := by
  induction x generalizing y
  case entity | constant | now | defaultValue | anyValue =>
    have himage := hleaf _ _ rfl h
    cases h
    exact himage
  case member iharguments ihrows =>
    cases h with
    | member harguments hrows =>
      have himages := forall₂_map_of_mem harguments iharguments
      have hentries := forall₂_map_of_mem hrows fun row hrow row' hequal =>
        forall₂_map_of_mem hequal (ihrows row hrow)
      simp only [List.forall₂_eq_eq_eq] at himages hentries
      simp only [Expr.mapLeaves, mapLeavesOfAll_eq_map, mapLeavesOfRows_eq_map, himages, hentries]
  all_goals
    cases h
    simp only [Expr.mapLeaves]
  case column ih _ h | measure ih _ h | aggregation ih _ h | variation ih _ h | hierarchy ih _ h
      | level ih _ h | nonempty ih _ h | not ih _ h | dateSpan ih _ h | dateAdd ih _ h =>
    rw [ih h]
  case and ihleft ihright _ _ hl hr | or ihleft ihright _ _ hl hr
      | compare ihleft ihright _ _ hl hr | contains ihleft ihright _ _ hl hr
      | startsWith ihleft ihright _ _ hl hr =>
    rw [ihleft hl, ihright hr]
  case between ihargument ihlower ihupper _ _ _ ha hl hu =>
    rw [ihargument ha, ihlower hl, ihupper hu]

/-- Equal expressions have the same shape. -/
theorem Equal.shape_eq (h : Equal ignoreCase x y) : x.shape = y.shape :=
  h.mapLeaves_eq fun _ _ _ _ => rfl

/-- The shape of the first parts tells where the leaves of the second parts begin. -/
theorem leaves_of_parts {x' y' : Expr} (hshape : x.shape = y.shape)
    (h : List.Forall₂ (Equal ignoreCase) (x.leaves ++ x'.leaves) (y.leaves ++ y'.leaves)) :
    List.Forall₂ (Equal ignoreCase) x.leaves y.leaves ∧
      List.Forall₂ (Equal ignoreCase) x'.leaves y'.leaves :=
  forall₂_of_append h (length_leaves_of_shape hshape)

/-- Two lists have the same shapes exactly if they have them entry by entry. -/
theorem map_shape_eq_iff (xs ys : List Expr) :
    xs.map shape = ys.map shape ↔ List.Forall₂ (fun x y => x.shape = y.shape) xs ys := by
  rw [← List.forall₂_eq_eq_eq, List.forall₂_map_left_iff, List.forall₂_map_right_iff]

/-- Lists of the same shapes have equally many leaves. -/
theorem length_flatMap_leaves {xs ys : List Expr}
    (h : List.Forall₂ (fun x y => x.shape = y.shape) xs ys) :
    (xs.flatMap leaves).length = (ys.flatMap leaves).length := by
  induction h with
  | nil => rfl
  | cons hhead _ ih =>
    rw [List.flatMap_cons, List.flatMap_cons, List.length_append, List.length_append, ih,
      length_leaves_of_shape hhead]

/-- Expressions of one shape with equal leaves are equal. The shape tells the kind and the fields
of every inner node, and how the list of leaves is cut into those of the children. -/
theorem equal_of_shape_leaves (hshape : x.shape = y.shape)
    (hleaves : List.Forall₂ (Equal ignoreCase) x.leaves y.leaves) : Equal ignoreCase x y := by
  induction x generalizing y
  case entity | constant | now | defaultValue | anyValue =>
    have hleaf : y.isLeaf = true := (shape_eq_now_iff y).1 hshape.symm
    rw [leaves_of_isLeaf rfl, leaves_of_isLeaf hleaf] at hleaves
    cases hleaves with
    | cons h _ => exact h
  case column name ih =>
    cases y with
    | column source' name' =>
      obtain ⟨hsource, rfl⟩ := column.inj hshape
      exact .column name (ih hsource (by simpa [leaves, nodes, isLeaf] using hleaves))
    | _ => cases hshape
  case measure name ih =>
    cases y with
    | measure source' name' =>
      obtain ⟨hsource, rfl⟩ := measure.inj hshape
      exact .measure name (ih hsource (by simpa [leaves, nodes, isLeaf] using hleaves))
    | _ => cases hshape
  case aggregation function _ ih =>
    cases y with
    | aggregation function' argument' =>
      obtain ⟨rfl, hargument⟩ := aggregation.inj hshape
      exact .aggregation function
        (ih hargument (by simpa [leaves, nodes, isLeaf] using hleaves))
    | _ => cases hshape
  case variation name property ih =>
    cases y with
    | variation source' name' property' =>
      obtain ⟨hsource, rfl, rfl⟩ := variation.inj hshape
      exact .variation name property
        (ih hsource (by simpa [leaves, nodes, isLeaf] using hleaves))
    | _ => cases hshape
  case hierarchy name ih =>
    cases y with
    | hierarchy source' name' =>
      obtain ⟨hsource, rfl⟩ := hierarchy.inj hshape
      exact .hierarchy name (ih hsource (by simpa [leaves, nodes, isLeaf] using hleaves))
    | _ => cases hshape
  case level name ih =>
    cases y with
    | level source' name' =>
      obtain ⟨hsource, rfl⟩ := level.inj hshape
      exact .level name (ih hsource (by simpa [leaves, nodes, isLeaf] using hleaves))
    | _ => cases hshape
  case and ihleft ihright =>
    cases y with
    | and left' right' =>
      obtain ⟨hleft, hright⟩ := and.inj hshape
      obtain ⟨hl, hr⟩ := leaves_of_parts hleft (by simpa [leaves, nodes, isLeaf] using hleaves)
      exact .and (ihleft hleft hl) (ihright hright hr)
    | _ => cases hshape
  case or ihleft ihright =>
    cases y with
    | or left' right' =>
      obtain ⟨hleft, hright⟩ := or.inj hshape
      obtain ⟨hl, hr⟩ := leaves_of_parts hleft (by simpa [leaves, nodes, isLeaf] using hleaves)
      exact .or (ihleft hleft hl) (ihright hright hr)
    | _ => cases hshape
  case compare comparison _ _ ihleft ihright =>
    cases y with
    | compare comparison' left' right' =>
      obtain ⟨rfl, hleft, hright⟩ := compare.inj hshape
      obtain ⟨hl, hr⟩ := leaves_of_parts hleft (by simpa [leaves, nodes, isLeaf] using hleaves)
      exact .compare comparison (ihleft hleft hl) (ihright hright hr)
    | _ => cases hshape
  case between argument lower upper ihargument ihlower ihupper =>
    cases y with
    | between argument' lower' upper' =>
      obtain ⟨hargument, hlower, hupper⟩ := between.inj hshape
      have hall : List.Forall₂ (Equal ignoreCase)
          (argument.leaves ++ (lower.leaves ++ upper.leaves))
          (argument'.leaves ++ (lower'.leaves ++ upper'.leaves)) := by
        simpa [leaves, nodes, isLeaf] using hleaves
      obtain ⟨ha, hbounds⟩ := forall₂_of_append hall (length_leaves_of_shape hargument)
      obtain ⟨hl, hu⟩ := leaves_of_parts hlower hbounds
      exact .between (ihargument hargument ha) (ihlower hlower hl) (ihupper hupper hu)
    | _ => cases hshape
  case member arguments rows iharguments ihrows =>
    cases y with
    | member arguments' rows' =>
      rw [shape_member, shape_member] at hshape
      obtain ⟨hshapes, hrowShapes⟩ := member.inj hshape
      rw [map_shape_eq_iff] at hshapes
      rw [← List.forall₂_eq_eq_eq, List.forall₂_map_left_iff, List.forall₂_map_right_iff]
        at hrowShapes
      rw [leaves_member, leaves_member] at hleaves
      obtain ⟨ha, hr⟩ := forall₂_of_append hleaves (length_flatMap_leaves hshapes)
      have harguments := forall₂_of_flatMap hshapes (fun _ _ => length_leaves_of_shape)
        (fun x hx y => iharguments x hx) ha
      refine .member harguments (forall₂_of_flatMap hrowShapes ?_ ?_ hr)
      · intro row row' hrow
        exact length_flatMap_leaves ((map_shape_eq_iff row row').1 hrow)
      · intro row hrow row' hentryShapes hentries
        exact forall₂_of_flatMap ((map_shape_eq_iff row row').1 hentryShapes)
          (fun _ _ => length_leaves_of_shape) (fun x hx y => ihrows row hrow x hx) hentries
    | _ => cases hshape
  case contains ihleft ihright =>
    cases y with
    | contains left' right' =>
      obtain ⟨hleft, hright⟩ := contains.inj hshape
      obtain ⟨hl, hr⟩ := leaves_of_parts hleft (by simpa [leaves, nodes, isLeaf] using hleaves)
      exact .contains (ihleft hleft hl) (ihright hright hr)
    | _ => cases hshape
  case startsWith ihleft ihright =>
    cases y with
    | startsWith left' right' =>
      obtain ⟨hleft, hright⟩ := startsWith.inj hshape
      obtain ⟨hl, hr⟩ := leaves_of_parts hleft (by simpa [leaves, nodes, isLeaf] using hleaves)
      exact .startsWith (ihleft hleft hl) (ihright hright hr)
    | _ => cases hshape
  case nonempty ih =>
    cases y with
    | nonempty argument' =>
      have hargument := nonempty.inj hshape
      exact .nonempty (ih hargument (by simpa [leaves, nodes, isLeaf] using hleaves))
    | _ => cases hshape
  case not ih =>
    cases y with
    | not argument' =>
      have hargument := not.inj hshape
      exact .not (ih hargument (by simpa [leaves, nodes, isLeaf] using hleaves))
    | _ => cases hshape
  case dateSpan unit _ ih =>
    cases y with
    | dateSpan unit' argument' =>
      obtain ⟨rfl, hargument⟩ := dateSpan.inj hshape
      exact .dateSpan unit (ih hargument (by simpa [leaves, nodes, isLeaf] using hleaves))
    | _ => cases hshape
  case dateAdd unit amount _ ih =>
    cases y with
    | dateAdd unit' amount' argument' =>
      obtain ⟨rfl, rfl, hargument⟩ := dateAdd.inj hshape
      exact .dateAdd unit amount (ih hargument (by simpa [leaves, nodes, isLeaf] using hleaves))
    | _ => cases hshape

/-- **Equality is sameness of shape and pairwise equality of leaves.** -/
theorem equal_iff_shape_leaves (x y : Expr) :
    Equal ignoreCase x y ↔
      x.shape = y.shape ∧ List.Forall₂ (Equal ignoreCase) x.leaves y.leaves :=
  ⟨fun h => ⟨h.shape_eq, h.leaves⟩, fun h => equal_of_shape_leaves h.1 h.2⟩

end SemanticQuery.Expr
