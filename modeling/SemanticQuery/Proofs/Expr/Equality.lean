import SemanticQuery.Expr.Equality
import SemanticQuery.Proofs.Expr.Induction
import SemanticQuery.Proofs.Pairwise

/-!
# Structural equality as a relation

`Equal ignoreCase x y` says by one rule for each kind of node when two expressions are equal:
the nodes are of the same kind, their fields agree, and their children are equal pairwise.
`equals_iff` shows that the comparison decides this relation. Consequences of an equality are then
proved by cases on the rule.

Equality is symmetric. It is not transitive, since a missing local name agrees with any other.
-/

set_option autoImplicit false

namespace SemanticQuery

namespace Constant

/-- Equal constants have the same type. -/
theorem type_eq_of_equals {ignoreCase : Bool} {x y : Constant}
    (h : x.equals ignoreCase y = true) : x.type = y.type := by
  unfold equals at h
  rw [Bool.and_eq_true, beq_iff_eq] at h
  exact h.1

/-- A constant equals itself. -/
theorem equals_self {ignoreCase : Bool} (x : Constant) : x.equals ignoreCase x = true := by
  unfold equals
  rw [beq_self_eq_true, Bool.true_and]
  split
  · exact beq_self_eq_true _
  · exact beq_self_eq_true _

/-- Equality of constants is symmetric. -/
theorem equals_symm {ignoreCase : Bool} {x y : Constant} (h : x.equals ignoreCase y = true) :
    y.equals ignoreCase x = true := by
  have htype := type_eq_of_equals h
  unfold equals at h ⊢
  rw [Bool.and_eq_true] at h
  rw [← htype, beq_self_eq_true, Bool.true_and]
  split at h
  · rename_i hcase
    rw [if_pos hcase, beq_iff_eq]
    exact (beq_iff_eq.1 h.2).symm
  · rename_i hcase
    rw [if_neg hcase, beq_iff_eq]
    exact (beq_iff_eq.1 h.2).symm

/-- Equality of constants is transitive. -/
theorem equals_trans {ignoreCase : Bool} {x y z : Constant} (h : x.equals ignoreCase y = true)
    (h' : y.equals ignoreCase z = true) : x.equals ignoreCase z = true := by
  have htype := type_eq_of_equals h
  unfold equals at h h' ⊢
  rw [← htype] at h'
  rw [Bool.and_eq_true] at h h' ⊢
  refine ⟨h'.1, ?_⟩
  by_cases hcase : (ignoreCase && x.type.isText) = true
  · simp only [if_pos hcase, beq_iff_eq] at h h' ⊢
    exact h.2.trans h'.2
  · simp only [if_neg hcase, beq_iff_eq] at h h' ⊢
    exact h.2.trans h'.2

end Constant

namespace Expr

/-- A local name agrees with itself. -/
theorem localNamesAgree_self (x : Option String) : localNamesAgree x x = true := by
  cases x with
  | none => rfl
  | some name => exact beq_self_eq_true name

/-- Agreement of local names is symmetric. -/
theorem localNamesAgree_symm {x y : Option String} (h : localNamesAgree x y = true) :
    localNamesAgree y x = true := by
  rcases x with _ | x <;> rcases y with _ | y
  case some.some =>
    have hname : x = y := beq_iff_eq.1 h
    exact beq_iff_eq.2 hname.symm
  all_goals rfl

/-! ## The relation -/

/-- Equality of expressions, one rule for each kind of node. -/
inductive Equal (ignoreCase : Bool) : Expr → Expr → Prop where
  | entity (schema name : String) {localName localName' : Option String} :
      localNamesAgree localName localName' = true →
      Equal ignoreCase (.entity schema name localName) (.entity schema name localName')
  | column (name : String) {source source' : Expr} :
      Equal ignoreCase source source' →
      Equal ignoreCase (.column source name) (.column source' name)
  | measure (name : String) {source source' : Expr} :
      Equal ignoreCase source source' →
      Equal ignoreCase (.measure source name) (.measure source' name)
  | aggregation (function : AggregateFunction) {argument argument' : Expr} :
      Equal ignoreCase argument argument' →
      Equal ignoreCase (.aggregation function argument) (.aggregation function argument')
  | variation (name property : String) {source source' : Expr} :
      Equal ignoreCase source source' →
      Equal ignoreCase (.variation source name property) (.variation source' name property)
  | hierarchy (name : String) {source source' : Expr} :
      Equal ignoreCase source source' →
      Equal ignoreCase (.hierarchy source name) (.hierarchy source' name)
  | level (name : String) {source source' : Expr} :
      Equal ignoreCase source source' →
      Equal ignoreCase (.level source name) (.level source' name)
  | and {left left' right right' : Expr} :
      Equal ignoreCase left left' → Equal ignoreCase right right' →
      Equal ignoreCase (.and left right) (.and left' right')
  | or {left left' right right' : Expr} :
      Equal ignoreCase left left' → Equal ignoreCase right right' →
      Equal ignoreCase (.or left right) (.or left' right')
  | compare (comparison : Comparison) {left left' right right' : Expr} :
      Equal ignoreCase left left' → Equal ignoreCase right right' →
      Equal ignoreCase (.compare comparison left right) (.compare comparison left' right')
  | between {argument argument' lower lower' upper upper' : Expr} :
      Equal ignoreCase argument argument' → Equal ignoreCase lower lower' →
      Equal ignoreCase upper upper' →
      Equal ignoreCase (.between argument lower upper) (.between argument' lower' upper')
  | member {arguments arguments' : List Expr} {rows rows' : List (List Expr)} :
      List.Forall₂ (Equal ignoreCase) arguments arguments' →
      List.Forall₂ (List.Forall₂ (Equal ignoreCase)) rows rows' →
      Equal ignoreCase (.member arguments rows) (.member arguments' rows')
  | contains {left left' right right' : Expr} :
      Equal ignoreCase left left' → Equal ignoreCase right right' →
      Equal ignoreCase (.contains left right) (.contains left' right')
  | startsWith {left left' right right' : Expr} :
      Equal ignoreCase left left' → Equal ignoreCase right right' →
      Equal ignoreCase (.startsWith left right) (.startsWith left' right')
  | nonempty {argument argument' : Expr} :
      Equal ignoreCase argument argument' →
      Equal ignoreCase (.nonempty argument) (.nonempty argument')
  | not {argument argument' : Expr} :
      Equal ignoreCase argument argument' →
      Equal ignoreCase (.not argument) (.not argument')
  | constant {value value' : Constant} :
      value.equals ignoreCase value' = true →
      Equal ignoreCase (.constant value) (.constant value')
  | dateSpan (unit : TimeUnit) {argument argument' : Expr} :
      Equal ignoreCase argument argument' →
      Equal ignoreCase (.dateSpan unit argument) (.dateSpan unit argument')
  | dateAdd (unit : TimeUnit) (amount : Int64) {argument argument' : Expr} :
      Equal ignoreCase argument argument' →
      Equal ignoreCase (.dateAdd unit amount argument) (.dateAdd unit amount argument')
  | now : Equal ignoreCase .now .now
  | defaultValue : Equal ignoreCase .defaultValue .defaultValue
  | anyValue : Equal ignoreCase .anyValue .anyValue

variable {ignoreCase : Bool}

/-! ## The comparison decides the relation -/

/-- Equality of lists compares the entries pairwise. -/
theorem equalsAll_iff_forall₂ (xs ys : List Expr) :
    equalsAll ignoreCase xs ys = true ↔
      List.Forall₂ (fun x y => equals ignoreCase x y = true) xs ys := by
  induction xs generalizing ys with
  | nil =>
    rw [equalsAll, List.isEmpty_iff, List.forall₂_nil_left_iff]
  | cons x xs ih =>
    cases ys with
    | nil => simp [equalsAll]
    | cons y ys => rw [equalsAll, Bool.and_eq_true, ih, List.forall₂_cons]

/-- Equality of lists of rows compares the rows pairwise. -/
theorem equalsRows_iff_forall₂ (rows rows' : List (List Expr)) :
    equalsRows ignoreCase rows rows' = true ↔
      List.Forall₂ (List.Forall₂ fun x y => equals ignoreCase x y = true) rows rows' := by
  induction rows generalizing rows' with
  | nil =>
    rw [equalsRows, List.isEmpty_iff, List.forall₂_nil_left_iff]
  | cons row rows ih =>
    cases rows' with
    | nil => simp [equalsRows]
    | cons row' rows' =>
      rw [equalsRows, Bool.and_eq_true, equalsAll_iff_forall₂, ih, List.forall₂_cons]

/-- Expressions that the comparison finds equal are in the relation. In each case the comparison
leaves only the same kind of node for the other expression. -/
theorem Equal.of_equals {x y : Expr} (h : equals ignoreCase x y = true) :
    Equal ignoreCase x y := by
  induction x generalizing y with
  | entity schema name localName =>
    unfold equals at h
    split at h
    · simp only [Bool.and_eq_true, beq_iff_eq] at h
      obtain ⟨⟨rfl, rfl⟩, hlocal⟩ := h
      exact .entity schema name hlocal
    · cases h
  | column source name ih =>
    unfold equals at h
    split at h
    · simp only [Bool.and_eq_true, beq_iff_eq] at h
      obtain ⟨rfl, hsource⟩ := h
      exact .column name (ih hsource)
    · cases h
  | measure source name ih =>
    unfold equals at h
    split at h
    · simp only [Bool.and_eq_true, beq_iff_eq] at h
      obtain ⟨rfl, hsource⟩ := h
      exact .measure name (ih hsource)
    · cases h
  | aggregation function argument ih =>
    unfold equals at h
    split at h
    · simp only [Bool.and_eq_true, beq_iff_eq] at h
      obtain ⟨rfl, hargument⟩ := h
      exact .aggregation function (ih hargument)
    · cases h
  | variation source name property ih =>
    unfold equals at h
    split at h
    · simp only [Bool.and_eq_true, beq_iff_eq] at h
      obtain ⟨⟨rfl, rfl⟩, hsource⟩ := h
      exact .variation name property (ih hsource)
    · cases h
  | hierarchy source name ih =>
    unfold equals at h
    split at h
    · simp only [Bool.and_eq_true, beq_iff_eq] at h
      obtain ⟨rfl, hsource⟩ := h
      exact .hierarchy name (ih hsource)
    · cases h
  | level source name ih =>
    unfold equals at h
    split at h
    · simp only [Bool.and_eq_true, beq_iff_eq] at h
      obtain ⟨rfl, hsource⟩ := h
      exact .level name (ih hsource)
    · cases h
  | and left right ihleft ihright =>
    unfold equals at h
    split at h
    · simp only [Bool.and_eq_true] at h
      obtain ⟨hleft, hright⟩ := h
      exact .and (ihleft hleft) (ihright hright)
    · cases h
  | or left right ihleft ihright =>
    unfold equals at h
    split at h
    · simp only [Bool.and_eq_true] at h
      obtain ⟨hleft, hright⟩ := h
      exact .or (ihleft hleft) (ihright hright)
    · cases h
  | compare comparison left right ihleft ihright =>
    unfold equals at h
    split at h
    · simp only [Bool.and_eq_true, beq_iff_eq] at h
      obtain ⟨⟨rfl, hleft⟩, hright⟩ := h
      exact .compare comparison (ihleft hleft) (ihright hright)
    · cases h
  | between argument lower upper ihargument ihlower ihupper =>
    unfold equals at h
    split at h
    · simp only [Bool.and_eq_true] at h
      obtain ⟨⟨hargument, hlower⟩, hupper⟩ := h
      exact .between (ihargument hargument) (ihlower hlower) (ihupper hupper)
    · cases h
  | member arguments rows iharguments ihrows =>
    unfold equals at h
    split at h
    · rw [Bool.and_eq_true, equalsAll_iff_forall₂, equalsRows_iff_forall₂] at h
      obtain ⟨harguments, hrows⟩ := h
      refine .member (forall₂_imp_of_mem harguments fun x hx y => iharguments x hx)
        (forall₂_imp_of_mem hrows fun row hrow row' hentries => ?_)
      exact forall₂_imp_of_mem hentries fun x hx y => ihrows row hrow x hx
    · cases h
  | contains left right ihleft ihright =>
    unfold equals at h
    split at h
    · simp only [Bool.and_eq_true] at h
      obtain ⟨hleft, hright⟩ := h
      exact .contains (ihleft hleft) (ihright hright)
    · cases h
  | startsWith left right ihleft ihright =>
    unfold equals at h
    split at h
    · simp only [Bool.and_eq_true] at h
      obtain ⟨hleft, hright⟩ := h
      exact .startsWith (ihleft hleft) (ihright hright)
    · cases h
  | nonempty argument ih =>
    unfold equals at h
    split at h
    · exact .nonempty (ih h)
    · cases h
  | not argument ih =>
    unfold equals at h
    split at h
    · exact .not (ih h)
    · cases h
  | constant value =>
    unfold equals at h
    split at h
    · exact .constant h
    · cases h
  | dateSpan unit argument ih =>
    unfold equals at h
    split at h
    · simp only [Bool.and_eq_true, beq_iff_eq] at h
      obtain ⟨rfl, hargument⟩ := h
      exact .dateSpan unit (ih hargument)
    · cases h
  | dateAdd unit amount argument ih =>
    unfold equals at h
    split at h
    · simp only [Bool.and_eq_true, beq_iff_eq] at h
      obtain ⟨⟨rfl, rfl⟩, hargument⟩ := h
      exact .dateAdd unit amount (ih hargument)
    · cases h
  | now =>
    unfold equals at h
    split at h
    · exact .now
    · cases h
  | defaultValue =>
    unfold equals at h
    split at h
    · exact .defaultValue
    · cases h
  | anyValue =>
    unfold equals at h
    split at h
    · exact .anyValue
    · cases h

/-- Expressions in the relation are found equal by the comparison. -/
theorem Equal.equals {x y : Expr} (h : Equal ignoreCase x y) : x.equals ignoreCase y = true := by
  induction x generalizing y <;> cases h <;> unfold Expr.equals <;>
    simp only [Bool.and_eq_true, beq_iff_eq, and_true, true_and]
  case entity hlocal => exact hlocal
  case constant hvalue => exact hvalue
  case column ih _ h | measure ih _ h | variation ih _ h | hierarchy ih _ h | level ih _ h
      | nonempty ih _ h | not ih _ h =>
    exact ih h
  case aggregation ih _ h | dateSpan ih _ h | dateAdd ih _ h => exact ih h
  case and hleft hright _ _ hl hr | or hleft hright _ _ hl hr | compare hleft hright _ _ hl hr
      | contains hleft hright _ _ hl hr | startsWith hleft hright _ _ hl hr =>
    exact ⟨hleft hl, hright hr⟩
  case between hargument hlower hupper _ _ _ ha hl hu =>
    exact ⟨⟨hargument ha, hlower hl⟩, hupper hu⟩
  case member arguments rows harguments hrows _ _ has hrs =>
    rw [equalsAll_iff_forall₂, equalsRows_iff_forall₂]
    refine ⟨forall₂_imp_of_mem has fun x hx y => harguments x hx,
      forall₂_imp_of_mem hrs fun row hrow row' hentries => ?_⟩
    exact forall₂_imp_of_mem hentries fun x hx y => hrows row hrow x hx

/-- **The comparison decides equality.** -/
theorem equals_iff (x y : Expr) : equals ignoreCase x y = true ↔ Equal ignoreCase x y :=
  ⟨Equal.of_equals, Equal.equals⟩

/-- The comparison of lists decides pairwise equality. -/
theorem equalsAll_iff (xs ys : List Expr) :
    equalsAll ignoreCase xs ys = true ↔ List.Forall₂ (Equal ignoreCase) xs ys := by
  rw [equalsAll_iff_forall₂]
  have hpointwise : (fun x y => equals ignoreCase x y = true) = Equal ignoreCase := by
    funext x y
    exact propext (equals_iff x y)
  rw [hpointwise]

/-- **Equality is reflexive.** -/
theorem Equal.refl (x : Expr) : Equal ignoreCase x x := by
  induction x with
  | entity schema name localName => exact .entity schema name (localNamesAgree_self localName)
  | column source name ih => exact .column name ih
  | measure source name ih => exact .measure name ih
  | aggregation function argument ih => exact .aggregation function ih
  | variation source name property ih => exact .variation name property ih
  | hierarchy source name ih => exact .hierarchy name ih
  | level source name ih => exact .level name ih
  | and left right ihleft ihright => exact .and ihleft ihright
  | or left right ihleft ihright => exact .or ihleft ihright
  | compare comparison left right ihleft ihright => exact .compare comparison ihleft ihright
  | between argument lower upper ihargument ihlower ihupper =>
    exact .between ihargument ihlower ihupper
  | member arguments rows iharguments ihrows =>
    refine .member (List.forall₂_same.2 iharguments) (List.forall₂_same.2 fun row hrow => ?_)
    exact List.forall₂_same.2 (ihrows row hrow)
  | contains left right ihleft ihright => exact .contains ihleft ihright
  | startsWith left right ihleft ihright => exact .startsWith ihleft ihright
  | nonempty argument ih => exact .nonempty ih
  | not argument ih => exact .not ih
  | constant value => exact .constant (Constant.equals_self value)
  | dateSpan unit argument ih => exact .dateSpan unit ih
  | dateAdd unit amount argument ih => exact .dateAdd unit amount ih
  | now => exact .now
  | defaultValue => exact .defaultValue
  | anyValue => exact .anyValue

/-- **Equality is symmetric.** -/
theorem Equal.symm {x y : Expr} (h : Equal ignoreCase x y) : Equal ignoreCase y x := by
  induction x generalizing y <;> cases h
  case entity schema name _ _ hlocal => exact .entity schema name (localNamesAgree_symm hlocal)
  case column name ih _ h => exact .column name (ih h)
  case measure name ih _ h => exact .measure name (ih h)
  case aggregation function _ ih _ h => exact .aggregation function (ih h)
  case variation name property ih _ h => exact .variation name property (ih h)
  case hierarchy name ih _ h => exact .hierarchy name (ih h)
  case level name ih _ h => exact .level name (ih h)
  case and ihleft ihright _ _ hl hr => exact .and (ihleft hl) (ihright hr)
  case or ihleft ihright _ _ hl hr => exact .or (ihleft hl) (ihright hr)
  case compare comparison _ _ ihleft ihright _ _ hl hr =>
    exact .compare comparison (ihleft hl) (ihright hr)
  case between ihargument ihlower ihupper _ _ _ ha hl hu =>
    exact .between (ihargument ha) (ihlower hl) (ihupper hu)
  case member iharguments ihrows _ _ harguments hrows =>
    have hflipped := forall₂_imp_of_mem harguments fun x hx y => iharguments x hx
    have hrowsFlipped := forall₂_imp_of_mem hrows fun row hrow row' hentries =>
      List.Forall₂.flip (forall₂_imp_of_mem hentries fun x hx y => ihrows row hrow x hx)
    exact .member (List.Forall₂.flip hflipped) (List.Forall₂.flip hrowsFlipped)
  case contains ihleft ihright _ _ hl hr => exact .contains (ihleft hl) (ihright hr)
  case startsWith ihleft ihright _ _ hl hr => exact .startsWith (ihleft hl) (ihright hr)
  case nonempty ih _ h => exact .nonempty (ih h)
  case not ih _ h => exact .not (ih h)
  case constant h => exact .constant (Constant.equals_symm h)
  case dateSpan unit _ ih _ h => exact .dateSpan unit (ih h)
  case dateAdd unit amount _ ih _ h => exact .dateAdd unit amount (ih h)
  case now => exact .now
  case defaultValue => exact .defaultValue
  case anyValue => exact .anyValue

/-- The nodes of equal expressions are equal pairwise. -/
theorem Equal.nodes {x y : Expr} (h : Equal ignoreCase x y) :
    List.Forall₂ (Equal ignoreCase) x.nodes y.nodes := by
  induction x generalizing y <;>
    have hself : List.Forall₂ (Equal ignoreCase) [_] [_] := List.Forall₂.cons h List.Forall₂.nil <;>
    cases h <;> unfold Expr.nodes
  case entity | constant | now | defaultValue | anyValue => exact hself
  case column ih _ h | measure ih _ h | variation ih _ h | hierarchy ih _ h
      | level ih _ h | nonempty ih _ h | not ih _ h | aggregation ih _ h | dateSpan ih _ h
      | dateAdd ih _ h =>
    exact List.rel_append (ih h) hself
  case and ihleft ihright _ _ hl hr | or ihleft ihright _ _ hl hr
      | compare ihleft ihright _ _ hl hr | contains ihleft ihright _ _ hl hr
      | startsWith ihleft ihright _ _ hl hr =>
    exact List.rel_append (List.rel_append (ihleft hl) (ihright hr)) hself
  case between ihargument ihlower ihupper _ _ _ ha hl hu =>
    have hbounds := List.rel_append (List.rel_append (ihargument ha) (ihlower hl)) (ihupper hu)
    exact List.rel_append hbounds hself
  case member iharguments ihrows _ _ harguments hrows =>
    rw [nodesOfAll_eq_flatMap, nodesOfAll_eq_flatMap, nodesOfRows_eq_flatMap,
      nodesOfRows_eq_flatMap]
    have hall := forall₂_flatMap_of_mem harguments iharguments
    have hentries := forall₂_flatMap_of_mem hrows fun row hrow row' hequal =>
      forall₂_flatMap_of_mem hequal (ihrows row hrow)
    exact List.rel_append (List.rel_append hall hentries) hself

/-- Lists are equal to themselves. -/
theorem equalsAll_refl (xs : List Expr) : equalsAll ignoreCase xs xs = true := by
  rw [equalsAll_iff, List.forall₂_same]
  intro x _
  exact Equal.refl x

/-- Equality of lists is symmetric. -/
theorem equalsAll_symm {xs ys : List Expr} (h : equalsAll ignoreCase xs ys = true) :
    equalsAll ignoreCase ys xs = true := by
  rw [equalsAll_iff] at h ⊢
  exact List.Forall₂.flip (h.imp fun _ _ hequal => hequal.symm)

end Expr

end SemanticQuery
