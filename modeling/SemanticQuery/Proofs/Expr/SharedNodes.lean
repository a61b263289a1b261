import SemanticQuery.Expr.SharedNodes
import SemanticQuery.Proofs.Expr.Equality

/-!
# Shared nodes keep the verdict of equality

A comparison that stops where one node is met on both sides takes another path through the
expressions than the plain comparison, and which path it takes depends on what happens to be
shared. All it is told is that two places are occupied by one node, hence that the same expression
stands at both. The plain comparison finds every expression equal to itself, so it would have come
to the same verdict there, and by induction it comes to the same verdict everywhere above.

A test of identity is sound for two expressions if it never claims a shared node where different
expressions stand. Soundness is passed down to the children of the two roots and from there along
the lists of a membership.
-/

set_option autoImplicit false

namespace SemanticQuery

namespace Expr

/-- The subexpression at an address. -/
def subexpr? (e : Expr) : Address → Option Expr
  | [] => some e
  | child :: address => e.children[child]?.bind fun e' => e'.subexpr? address

end Expr

namespace IdentityTest

/-- Wherever one node is said to occupy two places, the same expression stands at both. -/
def Sound (same : IdentityTest) (x y : Expr) : Prop :=
  ∀ address address', same address address' = true → x.subexpr? address = y.subexpr? address'

/-- Soundness for each pair of entries of two lists, which are the children from given numbers
on. -/
def SoundFrom (same : IdentityTest) (child child' : Nat) (xs ys : List Expr) : Prop :=
  ∀ i j x y, xs[i]? = some x → ys[j]? = some y →
    (same.below (child + i) (child' + j)).Sound x y

variable {same : IdentityTest}

/-- If one node is said to be the root of both expressions, they are the same. -/
theorem Sound.eq_of_root {x y : Expr} (h : same.Sound x y) (hroot : same [] [] = true) : x = y :=
  Option.some.inj (h [] [] hroot)

/-- A sound test is sound for each pair of children. -/
theorem Sound.children {x y : Expr} (h : same.Sound x y) :
    same.SoundFrom 0 0 x.children y.children := by
  intro i j x' y' hx hy address address' hsame
  simp only [Nat.zero_add] at hsame
  have hbelow := h (i :: address) (j :: address') hsame
  simpa only [Expr.subexpr?, hx, hy, Option.bind_some] using hbelow

namespace SoundFrom

variable {child child' : Nat} {x y : Expr} {xs ys us vs : List Expr}

/-- Soundness for two lists is soundness for the first entries. -/
theorem head (h : same.SoundFrom child child' (x :: xs) (y :: ys)) :
    (same.below child child').Sound x y :=
  h 0 0 x y rfl rfl

/-- Soundness for two lists is soundness for the other entries, with the numbers that they have. -/
theorem tail (h : same.SoundFrom child child' (x :: xs) (y :: ys)) :
    same.SoundFrom (child + 1) (child' + 1) xs ys := by
  intro i j x' y' hx hy
  rw [Nat.add_right_comm child, Nat.add_right_comm child']
  exact h (i + 1) (j + 1) x' y' hx hy

/-- Soundness for two lists is soundness for their front parts. -/
theorem left (h : same.SoundFrom child child' (xs ++ us) (ys ++ vs)) :
    same.SoundFrom child child' xs ys := by
  intro i j x' y' hx hy
  have hi := (List.getElem?_eq_some_iff.1 hx).1
  have hj := (List.getElem?_eq_some_iff.1 hy).1
  exact h i j x' y' (by rwa [List.getElem?_append_left hi])
    (by rwa [List.getElem?_append_left hj])

/-- Soundness for two lists is soundness for their back parts, with the numbers that their entries
have. -/
theorem right (h : same.SoundFrom child child' (xs ++ us) (ys ++ vs)) :
    same.SoundFrom (child + xs.length) (child' + ys.length) us vs := by
  intro i j x' y' hx hy
  rw [Nat.add_assoc, Nat.add_assoc]
  apply h
  · rwa [List.getElem?_append_right (Nat.le_add_right ..), Nat.add_sub_cancel_left]
  · rwa [List.getElem?_append_right (Nat.le_add_right ..), Nat.add_sub_cancel_left]

end SoundFrom

end IdentityTest

namespace Expr

open IdentityTest

variable {ignoreCase : Bool}

/-- Whatever it is compared with, a sound test does not change the verdict on an expression. -/
def VerdictKept (ignoreCase : Bool) (x : Expr) : Prop :=
  ∀ (same : IdentityTest) (y : Expr), same.Sound x y →
    equalsSharing ignoreCase same x y = equals ignoreCase x y

/-- A sound test does not change the verdict on lists, if so for every entry. -/
theorem equalsAllSharing_eq {same : IdentityTest} {child child' : Nat} {xs ys : List Expr}
    (hxs : ∀ x ∈ xs, VerdictKept ignoreCase x) (hsound : same.SoundFrom child child' xs ys) :
    equalsAllSharing ignoreCase same child child' xs ys = equalsAll ignoreCase xs ys := by
  induction xs generalizing child child' ys with
  | nil => rfl
  | cons x xs ih =>
    cases ys with
    | nil => rfl
    | cons y ys =>
      have hfirst := hxs x (List.mem_cons_self ..) _ y hsound.head
      have hrest := ih (fun x' hx' => hxs x' (List.mem_cons_of_mem _ hx')) hsound.tail
      rw [equalsAllSharing, equalsAll, hfirst, hrest]

/-- A sound test does not change the verdict on rows, if so for every entry. -/
theorem equalsRowsSharing_eq {same : IdentityTest} {child child' : Nat}
    {rows rows' : List (List Expr)} (hrows : ∀ x ∈ rows.flatten, VerdictKept ignoreCase x)
    (hsound : same.SoundFrom child child' rows.flatten rows'.flatten) :
    equalsRowsSharing ignoreCase same child child' rows rows' =
      equalsRows ignoreCase rows rows' := by
  induction rows generalizing child child' rows' with
  | nil => rfl
  | cons row rows ih =>
    cases rows' with
    | nil => rfl
    | cons row' rows' =>
      rw [List.flatten_cons] at hrows hsound
      rw [List.flatten_cons] at hsound
      have hfirst := equalsAllSharing_eq (fun x hx => hrows x (List.mem_append_left _ hx))
        hsound.left
      have hrest := ih (fun x hx => hrows x (List.mem_append_right _ hx)) hsound.right
      rw [equalsRowsSharing, equalsRows, hfirst, hrest]

/-- A sound test does not change the verdict on an expression. By induction on the expression, where
the roots are no shared node. -/
theorem verdictKept (x : Expr) : VerdictKept ignoreCase x := by
  induction x using induct_children with
  | h x ih =>
  intro same y hsound
  unfold equalsSharing
  cases hroot : same [] [] with
  | true =>
    obtain rfl := hsound.eq_of_root hroot
    rw [Bool.true_or, (Equal.refl x).equals]
  | false =>
    have hlists := hsound.children
    have hchild (i : Nat) (x' y' : Expr) (hx : x.children[i]? = some x')
        (hy : y.children[i]? = some y') :
        equalsSharing ignoreCase (same.below i i) x' y' = equals ignoreCase x' y' := by
      have hbelow := hlists i i x' y' hx hy
      rw [Nat.zero_add] at hbelow
      exact ih x' (List.mem_of_getElem? hx) _ y' hbelow
    rw [Bool.false_or]
    cases x <;> cases y
    case entity.entity | constant.constant | now.now | defaultValue.defaultValue
        | anyValue.anyValue => rfl
    case column.column | measure.measure | aggregation.aggregation | variation.variation
        | hierarchy.hierarchy | level.level | nonempty.nonempty | not.not | dateSpan.dateSpan
        | dateAdd.dateAdd =>
      simp only [equals, hchild 0 _ _ rfl rfl]
    case and.and | or.or | compare.compare | contains.contains | startsWith.startsWith =>
      simp only [equals, hchild 0 _ _ rfl rfl, hchild 1 _ _ rfl rfl]
    case between.between =>
      simp only [equals, hchild 0 _ _ rfl rfl, hchild 1 _ _ rfl rfl, hchild 2 _ _ rfl rfl]
    case member.member arguments rows arguments' rows' =>
      have hall := equalsAllSharing_eq (fun e he => ih e (List.mem_append_left _ he)) hlists.left
      have hrows := equalsRowsSharing_eq (fun e he => ih e (List.mem_append_right _ he))
        hlists.right
      rw [Nat.zero_add, Nat.zero_add] at hrows
      simp only [equals, hall, hrows]
    -- Nodes of different kinds are told apart at once, in both comparisons.
    all_goals rfl

/-- **Shared nodes keep the verdict of equality.** Whatever nodes two expressions share, between
them and within them, a comparison that looks no further where it meets one node on both sides comes
to the verdict of the comparison that always looks; and so it does for two lists of expressions. -/
theorem equalsSharing_eq_equals (ignoreCase : Bool) (same : IdentityTest) :
    (∀ x y, same.Sound x y → equalsSharing ignoreCase same x y = equals ignoreCase x y) ∧
    ∀ xs ys, same.SoundFrom 0 0 xs ys →
      equalsAllSharing ignoreCase same 0 0 xs ys = equalsAll ignoreCase xs ys := by
  constructor
  · intro x y hsound
    exact verdictKept x same y hsound
  · intro xs ys hsound
    exact equalsAllSharing_eq (fun x _ => verdictKept x) hsound

/-- The prices of sales that are not a number. -/
def undefinedPrice (localName : Option String) : Expr :=
  .member [.column (.entity "s" "Sales" localName) "Price"]
    [[.constant (Constant.ofDatum (.double .nan))]]

/-- One node stands on the left of both conjunctions, and once more beneath the negation of the
first. The verdict there is reached without looking into it, and it is the plain one. -/
theorem equalsSharing_eq_equals_of_undefinedPrice :
    let x := .and (undefinedPrice (some "a")) (.not (undefinedPrice (some "a")))
    let y := .and (undefinedPrice (some "a")) (.not (undefinedPrice none))
    let same : IdentityTest := fun address address' =>
      decide ((address = [0] ∨ address = [1, 0]) ∧ address' = [0])
    same.Sound x y ∧ equalsSharing false same x y = true ∧ equals false x y = true ∧
    same.SoundFrom 0 0 x.children y.children ∧
      equalsAllSharing false same 0 0 x.children y.children =
        equalsAll false x.children y.children := by
  intro x y same
  have hsound : same.Sound x y := by
    intro address address' hsame
    obtain ⟨rfl | rfl, rfl⟩ := of_decide_eq_true hsame
    · rfl
    · rfl
  have hequal : equals false x y = true := by decide
  have hverdict := (equalsSharing_eq_equals false same).1 x y hsound
  have hlists := (equalsSharing_eq_equals false same).2 _ _ hsound.children
  exact ⟨hsound, hverdict.trans hequal, hequal, hsound.children, hlists⟩

end Expr

end SemanticQuery
