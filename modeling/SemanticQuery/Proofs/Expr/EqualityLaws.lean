import SemanticQuery.Proofs.Expr.Shape

/-!
# The laws of equality

Equality is reflexive and symmetric, and expressions that are equal with regard to case are equal
without it. Whether case is regarded matters at the constants alone: the verdict on two constants of
another type than text does not depend on it, hence neither does the verdict on two expressions of
which one has no text. The shape and the other leaves are compared in the same way in both cases.
-/

set_option autoImplicit false

namespace SemanticQuery

namespace Constant

/-- Constants that are equal when case counts are equal when it does not. -/
theorem equals_of_equals_false {x y : Constant} (ignoreCase : Bool)
    (h : x.equals false y = true) : x.equals ignoreCase y = true := by
  unfold equals at h ⊢
  simp only [Bool.false_and, Bool.false_eq_true, if_false, Bool.and_eq_true, beq_iff_eq] at h
  obtain ⟨htype, hencoded⟩ := h
  simp [htype, hencoded]

/-- For a constant that is no text it does not matter whether case counts. -/
theorem equals_eq_of_not_text {x : Constant} (h : x.type.isText = false)
    (ignoreCase ignoreCase' : Bool) (y : Constant) :
    x.equals ignoreCase y = x.equals ignoreCase' y := by
  simp [equals, h]

end Constant

namespace Expr

/-- Equality with and without regard to case differ in the verdict on constants only. -/
theorem Equal.of_constants {ignoreCase ignoreCase' : Bool} {x y : Expr} (h : Equal ignoreCase x y)
    (hconstant : ∀ c d : Constant, .constant c ∈ x.nodes →
      c.equals ignoreCase d = true → c.equals ignoreCase' d = true) : Equal ignoreCase' x y := by
  rw [equal_iff_shape_leaves] at h ⊢
  refine ⟨h.1, forall₂_imp_of_mem h.2 ?_⟩
  intro a ha b hequal
  obtain ⟨hnode, hleaf⟩ := (mem_leaves_iff a x).1 ha
  cases hequal with
  | entity schema name hlocal => exact .entity schema name hlocal
  | constant hvalue => exact .constant (hconstant _ _ hnode hvalue)
  | now => exact .now
  | defaultValue => exact .defaultValue
  | anyValue => exact .anyValue
  | _ => cases hleaf

/-- Equality does not depend on the order of the sides. -/
theorem equals_comm (ignoreCase : Bool) (x y : Expr) :
    equals ignoreCase x y = equals ignoreCase y x := by
  rw [Bool.eq_iff_iff, equals_iff, equals_iff]
  exact ⟨Equal.symm, Equal.symm⟩

/-- For an expression without text constants it does not matter whether case counts. -/
theorem equals_true_eq_equals_false {x : Expr}
    (htext : ∀ c, .constant c ∈ x.nodes → c.type.isText = false) (y : Expr) :
    equals true x y = equals false x y := by
  have hsame (c d : Constant) (hc : .constant c ∈ x.nodes) : c.equals true d = c.equals false d :=
    Constant.equals_eq_of_not_text (htext c hc) true false d
  rw [Bool.eq_iff_iff, equals_iff, equals_iff]
  constructor
  · intro h
    apply h.of_constants
    intro c d hc hequal
    rwa [← hsame c d hc]
  · intro h
    apply h.of_constants
    intro c d hc hequal
    rwa [hsame c d hc]

/-- **The laws of equality.** The comparison finds every expression equal to itself and does not
depend on the order of the two expressions. What it finds equal with regard to case it finds equal
without; where the first expression has no text among its constants the verdicts are the same. -/
theorem equals_laws :
    (∀ ignoreCase x, equals ignoreCase x x = true) ∧
    (∀ ignoreCase x y, equals ignoreCase x y = equals ignoreCase y x) ∧
    (∀ x y, equals false x y = true → equals true x y = true) ∧
    (∀ x y, (∀ c, .constant c ∈ x.nodes → c.type.isText = false) →
      equals true x y = equals false x y) := by
  refine ⟨?_, equals_comm, ?_, ?_⟩
  · intro ignoreCase x
    exact (Equal.refl x).equals
  · intro x y h
    have hequal : Equal false x y := Equal.of_equals h
    apply Equal.equals
    apply hequal.of_constants
    intro c d _ hc
    exact Constant.equals_of_equals_false true hc
  · intro x y htext
    exact equals_true_eq_equals_false htext y

/-- The condition that the sold amount exceeds a number. -/
def amountAbove (localName : Option String) (bound : Int64) : Expr :=
  .compare .greaterThan (.column (.entity "s" "Sales" localName) "Amount")
    (.constant (Constant.ofDatum (.integer bound)))

/-- A condition without texts is equal to one with a local name, whatever is made of case. -/
theorem equals_laws_of_amountAbove :
    equals false (amountAbove none 10) (amountAbove (some "a") 10) = true ∧
    equals true (amountAbove none 10) (amountAbove (some "a") 10) = true ∧
    (∀ c, .constant c ∈ (amountAbove none 10).nodes → c.type.isText = false) ∧
    ∀ y, equals true (amountAbove none 10) y = equals false (amountAbove none 10) y := by
  have hequal : equals false (amountAbove none 10) (amountAbove (some "a") 10) = true := by decide
  have htext : ∀ c, .constant c ∈ (amountAbove none 10).nodes → c.type.isText = false := by
    intro c hc
    simp only [amountAbove, nodes, List.cons_append, List.nil_append, List.mem_cons,
      constant.injEq, reduceCtorEq, List.not_mem_nil, or_false, false_or] at hc
    rw [hc]
    rfl
  exact ⟨hequal, equals_laws.2.2.1 _ _ hequal, htext, fun y => equals_laws.2.2.2 _ y htext⟩

end Expr

end SemanticQuery
