import SemanticQuery.Expr.Build
import SemanticQuery.Proofs.Expr.Equality

/-!
# The truth of predicates

An interpretation gives every operand a value and decides the predicates that are left open here.
It has to give equal operands the same value; nothing else is asked of it. The connectives, the
equality comparison and membership then have their usual meaning: a membership is true when the
values of the arguments are, position by position, those of one of the rows.

A disjunction that merges two memberships is built from the arguments of the left one alone. It is
a membership with the rows of both, so it is about the right rows only as far as equal arguments
have equal values.
-/

set_option autoImplicit false

namespace SemanticQuery

/-- A meaning of operands and of the predicates without a meaning of their own. -/
structure Interpretation where
  Value : Type
  value : Expr → Value
  /-- The truth of the predicates other than connectives, equations and memberships. -/
  atom : Expr → Prop
  value_eq_of_equals : ∀ x y, x.equals false y = true → value x = value y

/-- The values can be the expressions themselves, identified as far as equality demands. -/
instance : Inhabited Interpretation where
  default :=
    { Value := Quot fun x y => Expr.equals false x y = true
      value := Quot.mk _
      atom := fun _ => False
      value_eq_of_equals := fun _ _ h => Quot.sound h }

namespace Interpretation

variable (I : Interpretation)

/-- The arguments have the values of the row, position by position. -/
def Matches (arguments row : List Expr) : Prop :=
  List.Forall₂ (fun argument entry => I.value argument = I.value entry) arguments row

/-- The truth of a predicate. -/
def Holds : Expr → Prop
  | .and left right => Holds left ∧ Holds right
  | .or left right => Holds left ∨ Holds right
  | .not argument => ¬ Holds argument
  | .compare .equal left right => I.value left = I.value right
  | .member arguments rows => ∃ row ∈ rows, I.Matches arguments row
  | e => I.atom e

/-- A row is matched when the lists of values are the same. -/
theorem matches_iff_map_eq (arguments row : List Expr) :
    I.Matches arguments row ↔ arguments.map I.value = row.map I.value := by
  rw [Matches, ← List.forall₂_eq_eq_eq, List.forall₂_map_left_iff, List.forall₂_map_right_iff]

/-- Equal argument lists have the same values. -/
theorem map_value_eq {arguments arguments' : List Expr}
    (h : Expr.equalsAll false arguments arguments' = true) :
    arguments.map I.value = arguments'.map I.value := by
  rw [Expr.equalsAll_iff_forall₂] at h
  rw [← List.forall₂_eq_eq_eq, List.forall₂_map_left_iff, List.forall₂_map_right_iff]
  exact h.imp fun x y => I.value_eq_of_equals x y

/-- Equal argument lists match the same rows. -/
theorem matches_congr {arguments arguments' : List Expr}
    (h : Expr.equalsAll false arguments arguments' = true) (row : List Expr) :
    I.Matches arguments row ↔ I.Matches arguments' row := by
  rw [matches_iff_map_eq, matches_iff_map_eq, I.map_value_eq h]

end Interpretation

namespace Expr

/-- Memberships over equal arguments merge. -/
theorem disjunction_member {arguments arguments' : List Expr} (rows rows' : List (List Expr))
    (h : equalsAll false arguments arguments' = true) :
    disjunction (.member arguments rows) (.member arguments' rows') =
      .member arguments (rows ++ rows') := by
  rw [disjunction, if_pos h]

end Expr

end SemanticQuery
