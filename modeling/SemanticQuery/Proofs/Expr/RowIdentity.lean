import SemanticQuery.Expr.Build
import SemanticQuery.Expr.RowIdentity
import SemanticQuery.Proofs.Expr.Equality

/-!
# The grammar of row identities

`Identity e equations` says that an expression is a conjunction, bracketed in any way, of equations
between a key and a constant, and lists them from left to right. The walk that takes an expression
apart is compared with this grammar in both directions: over an identity it collects the equations
behind what it has collected already, and over anything else it ends malformed, for a walk that has
once met an unsuitable node stays malformed.

The walk also respects equality: over equal expressions it collects equal parts.
-/

set_option autoImplicit false

namespace SemanticQuery

namespace Expr

/-- A key is a column or a level of a hierarchy, whatever it is taken from. -/
inductive IsKey : Expr → Prop where
  | column (source : Expr) (name : String) : IsKey (.column source name)
  | level (source : Expr) (name : String) : IsKey (.level source name)

/-- The grammar of row identities, with the equations from left to right. -/
inductive Identity : Expr → List (Expr × Constant) → Prop where
  | equation {key : Expr} (hkey : IsKey key) (value : Constant) :
      Identity (.compare .equal key (.constant value)) [(key, value)]
  | and {left right : Expr} {equations equations' : List (Expr × Constant)} :
      Identity left equations → Identity right equations' →
      Identity (.and left right) (equations ++ equations')

/-- The operands of the outermost conjunctions from left to right. -/
def conjuncts : Expr → List Expr
  | and left right => conjuncts left ++ conjuncts right
  | e => [e]

/-- The keys of some equations. -/
def keysOf (equations : List (Expr × Constant)) : List Expr :=
  equations.map Prod.fst

/-- The constants of some equations. -/
def valuesOf (equations : List (Expr × Constant)) : List Expr :=
  equations.map fun equation => .constant equation.2

/-- The equation between a key and a constant. -/
def equationOf (equation : Expr × Constant) : Expr :=
  .compare .equal equation.1 (.constant equation.2)

/-- An identity has an equation. -/
theorem Identity.ne_nil {e : Expr} {equations : List (Expr × Constant)}
    (h : Identity e equations) : equations ≠ [] := by
  induction h with
  | equation => exact List.cons_ne_nil _ _
  | and _ _ ih _ =>
    intro happend
    exact ih (List.append_eq_nil_iff.1 happend).1

/-- The keys of an identity are nodes of it. -/
theorem Identity.mem_nodes_of_key {e key : Expr} {equations : List (Expr × Constant)}
    (hidentity : Identity e equations) (hkey : key ∈ keysOf equations) : key ∈ e.nodes := by
  induction hidentity with
  | equation _ value =>
    rw [List.mem_singleton.1 hkey]
    exact List.mem_append_left _ (List.mem_append_left _ (self_mem_nodes _))
  | and _ _ ihleft ihright =>
    rw [keysOf, List.map_append] at hkey
    apply List.mem_append_left
    exact List.mem_append.2 ((List.mem_append.1 hkey).imp ihleft ihright)

/-- The keys and the constants of equations come in pairs. -/
theorem length_valuesOf (equations : List (Expr × Constant)) :
    (valuesOf equations).length = (keysOf equations).length := by
  rw [valuesOf, keysOf, List.length_map, List.length_map]

end Expr

namespace IdentityParts

/-- The parts with some equations collected behind them. -/
def extend (parts : IdentityParts) (equations : List (Expr × Constant)) : IdentityParts :=
  { parts with
    keys := parts.keys ++ Expr.keysOf equations
    values := parts.values ++ Expr.valuesOf equations }

/-- Collecting in two steps is collecting at once. -/
theorem extend_append (parts : IdentityParts) (equations equations' : List (Expr × Constant)) :
    (parts.extend equations).extend equations' = parts.extend (equations ++ equations') := by
  simp only [extend, Expr.keysOf, Expr.valuesOf, List.map_append, List.append_assoc]

end IdentityParts

namespace Expr

/-! ## The walk accepts the grammar -/

/-- A key is collected where one is due. -/
theorem IsKey.collect {key : Expr} (h : IsKey key) (parts : IdentityParts) :
    Expr.collect .key key parts = parts.addKey key := by
  cases h <;> rfl

/-- Over an identity the walk collects its equations. -/
theorem Identity.collect {e : Expr} {equations : List (Expr × Constant)} (h : Identity e equations)
    (parts : IdentityParts) : Expr.collect .predicate e parts = parts.extend equations := by
  induction h generalizing parts with
  | @equation key hkey value =>
    show Expr.collect .value (.constant value) (Expr.collect .key key parts) = _
    rw [hkey.collect]
    rfl
  | @and left right equations equations' _ _ ihleft ihright =>
    show Expr.collect .predicate right (Expr.collect .predicate left parts) = _
    rw [ihleft, ihright, IdentityParts.extend_append]

/-- The parts of an identity are its equations. -/
theorem Identity.identityParts? {e : Expr} {equations : List (Expr × Constant)}
    (h : Identity e equations) :
    e.identityParts? = some ⟨keysOf equations, valuesOf equations, false⟩ := by
  have hcollect : Expr.collect .predicate e {} = ⟨keysOf equations, valuesOf equations, false⟩ :=
    h.collect {}
  have hkeys : (keysOf equations).isEmpty = false := by
    rw [keysOf, List.isEmpty_map, List.isEmpty_eq_false_iff]
    exact h.ne_nil
  unfold Expr.identityParts?
  rw [hcollect]
  simp only [hkeys, Bool.or_self, Bool.false_eq_true, if_false]

/-! ## The walk accepts nothing else -/

/-- **A malformed walk stays malformed**, whatever it meets and in whatever role. -/
theorem collect_malformed (role : IdentityRole) (e : Expr) (parts : IdentityParts)
    (h : parts.malformed = true) : (collect role e parts).malformed = true := by
  induction e generalizing role parts with
  | and left right ihleft ihright =>
    cases role with
    | predicate => exact ihright .predicate _ (ihleft .predicate parts h)
    | key => rfl
    | value => rfl
  | compare comparison left right ihleft ihright =>
    cases role with
    | predicate =>
      cases comparison with
      | equal => exact ihright .value _ (ihleft .key parts h)
      | _ => rfl
    | key => rfl
    | value => rfl
  -- A node without a rule of its own for the role is rejected, or only adds to what is collected.
  | _ => cases role <;> first | rfl | exact h

/-- A walk that ends well has met a key where one was due. -/
theorem isKey_of_collect {e : Expr} {parts : IdentityParts}
    (h : (collect .key e parts).malformed = false) : IsKey e := by
  cases e with
  | column source name => exact .column source name
  | level source name => exact .level source name
  | _ => cases h

/-- A walk that ends well has met a constant where a value was due. -/
theorem exists_constant_of_collect {e : Expr} {parts : IdentityParts}
    (h : (collect .value e parts).malformed = false) : ∃ value, e = .constant value := by
  cases e with
  | constant value => exact ⟨value, rfl⟩
  | _ => cases h

/-- A walk that ends well was well before. -/
theorem malformed_eq_false_of_collect {role : IdentityRole} {e : Expr} {parts : IdentityParts}
    (h : (collect role e parts).malformed = false) : parts.malformed = false := by
  rw [← Bool.not_eq_true] at h ⊢
  intro hparts
  exact h (collect_malformed role e parts hparts)

/-- A walk that ends well has met an identity. -/
theorem exists_identity_of_collect (e : Expr) (parts : IdentityParts)
    (h : (collect .predicate e parts).malformed = false) : ∃ equations, Identity e equations := by
  induction e generalizing parts with
  | and left right ihleft ihright =>
    have hright : (collect .predicate right (collect .predicate left parts)).malformed = false := h
    obtain ⟨equations, hl⟩ := ihleft parts (malformed_eq_false_of_collect hright)
    obtain ⟨equations', hr⟩ := ihright _ hright
    exact ⟨equations ++ equations', .and hl hr⟩
  | compare comparison left right _ _ =>
    cases comparison with
    | equal =>
      have hright : (collect .value right (collect .key left parts)).malformed = false := h
      have hkey := isKey_of_collect (malformed_eq_false_of_collect hright)
      obtain ⟨value, rfl⟩ := exists_constant_of_collect hright
      exact ⟨[(left, value)], .equation hkey value⟩
    | _ => cases h
  | _ => cases h

/-- An expression that is no identity has no parts. -/
theorem identityParts?_eq_none {e : Expr} (h : ¬ ∃ equations, Identity e equations) :
    e.identityParts? = none := by
  have hmalformed : (collect .predicate e {}).malformed = true := by
    by_contra hwell
    exact h (exists_identity_of_collect e {} (Bool.not_eq_true _ ▸ hwell))
  unfold identityParts?
  simp only [hmalformed, Bool.true_or, if_true]

/-- The parts are those of an identity. -/
theorem exists_identity_of_identityParts? {e : Expr} {parts : IdentityParts}
    (hparts : e.identityParts? = some parts) :
    ∃ equations, Identity e equations ∧ parts = ⟨keysOf equations, valuesOf equations, false⟩ := by
  by_cases hidentity : ∃ equations, Identity e equations
  · obtain ⟨equations, hidentity⟩ := hidentity
    rw [hidentity.identityParts?, Option.some.injEq] at hparts
    exact ⟨equations, hidentity, hparts.symm⟩
  · rw [identityParts?_eq_none hidentity] at hparts
    cases hparts

/-- The keys of an expression are there exactly when it is an identity. -/
theorem identityKeys?_isSome_iff (e : Expr) :
    e.identityKeys?.isSome = true ↔ ∃ equations, Identity e equations := by
  constructor
  · intro hsome
    by_contra hnone
    rw [identityKeys?, identityParts?_eq_none hnone] at hsome
    exact absurd hsome Bool.false_ne_true
  · rintro ⟨equations, h⟩
    rw [identityKeys?, h.identityParts?]
    rfl

/-! ## Bracketing -/

/-- The walk meets the conjuncts one after the other. -/
theorem collect_eq_foldl_conjuncts (e : Expr) (parts : IdentityParts) :
    collect .predicate e parts =
      e.conjuncts.foldl (fun parts conjunct => collect .predicate conjunct parts) parts := by
  induction e generalizing parts with
  | and left right ihleft ihright =>
    show collect .predicate right (collect .predicate left parts) = _
    rw [conjuncts, List.foldl_append, ← ihleft, ← ihright]
  | _ => rfl

/-- An expression is an identity with certain equations exactly when they are its conjuncts and have
keys on the left. -/
theorem identity_iff_conjuncts (e : Expr) (equations : List (Expr × Constant)) :
    Identity e equations ↔
      e.conjuncts = equations.map equationOf ∧ ∀ equation ∈ equations, IsKey equation.1 := by
  constructor
  · intro h
    induction h with
    | @equation key hkey value =>
      refine ⟨rfl, fun equation hequation => ?_⟩
      rw [List.mem_singleton] at hequation
      rw [hequation]
      exact hkey
    | and _ _ ihleft ihright =>
      refine ⟨?_, fun equation hequation => ?_⟩
      · rw [conjuncts, ihleft.1, ihright.1, List.map_append]
      · rcases List.mem_append.1 hequation with hleft | hright
        · exact ihleft.2 equation hleft
        · exact ihright.2 equation hright
  · rintro ⟨hconjuncts, hkeys⟩
    induction e generalizing equations
    case and left right ihleft ihright =>
      rw [conjuncts] at hconjuncts
      obtain ⟨lefts, rights, rfl, hlefts, hrights⟩ := List.append_eq_map_iff.1 hconjuncts
      refine .and (ihleft lefts hlefts.symm fun equation hequation => ?_)
        (ihright rights hrights.symm fun equation hequation => ?_)
      · exact hkeys equation (List.mem_append_left _ hequation)
      · exact hkeys equation (List.mem_append_right _ hequation)
    -- Anything but a conjunction is its only conjunct, so there is a single equation, which it is.
    all_goals
      obtain ⟨equation, rfl, hequation⟩ := List.map_eq_singleton_iff.1 hconjuncts.symm
      rw [← hequation]
      exact .equation (hkeys equation (List.mem_singleton_self _)) equation.2

/-- Expressions with the same conjuncts have the same parts. -/
theorem identityParts?_congr_conjuncts {e e' : Expr} (h : e.conjuncts = e'.conjuncts) :
    e.identityParts? = e'.identityParts? := by
  unfold identityParts?
  rw [collect_eq_foldl_conjuncts e, collect_eq_foldl_conjuncts e', h]

/-- **The extraction accepts exactly the row identities.** There are keys just for the expressions
of the grammar. Of an identity the extraction gives the keys of its equations from left to right and
the membership of the keys in the row of the constants, a row that fits; of any other expression it
gives nothing; and it depends on the conjuncts only, not on their bracketing. -/
theorem extraction_accepts_exactly_identities (e : Expr) :
    (e.identityKeys?.isSome = true ↔ ∃ equations, Identity e equations) ∧
    (∀ equations, Identity e equations →
      e.conjuncts = equations.map equationOf ∧
      e.identityKeys? = some (keysOf equations) ∧
      e.identityMembership? = some (.member (keysOf equations) [valuesOf equations]) ∧
      membership (keysOf equations) [valuesOf equations] =
        .ok (.member (keysOf equations) [valuesOf equations])) ∧
    ((¬ ∃ equations, Identity e equations) →
      e.identityKeys? = none ∧ e.identityMembership? = none) ∧
    (∀ e' : Expr, e'.conjuncts = e.conjuncts →
      e'.identityKeys? = e.identityKeys? ∧ e'.identityMembership? = e.identityMembership?) := by
  refine ⟨identityKeys?_isSome_iff e, fun equations h => ?_, fun h => ?_, fun e' h => ?_⟩
  · have hconjuncts := ((identity_iff_conjuncts e equations).1 h).1
    have hfits : rowsFit (keysOf equations) [valuesOf equations] = true := by
      rw [rowsFit, List.all_cons, List.all_nil, Bool.and_true, beq_iff_eq]
      exact length_valuesOf equations
    refine ⟨hconjuncts, ?_, ?_, ?_⟩
    · rw [identityKeys?, h.identityParts?, Option.map_some]
    · rw [identityMembership?, h.identityParts?, Option.map_some]
    · rw [membership, if_pos hfits]
  · have hparts := identityParts?_eq_none h
    refine ⟨?_, ?_⟩
    · rw [identityKeys?, hparts, Option.map_none]
    · rw [identityMembership?, hparts, Option.map_none]
  · have hparts := identityParts?_congr_conjuncts h
    refine ⟨?_, ?_⟩
    · rw [identityKeys?, identityKeys?, hparts]
    · rw [identityMembership?, identityMembership?, hparts]

end Expr

/-! ## Equal expressions -/

section Equality

variable {ignoreCase : Bool}

/-- Parts with equal keys and equal constants that are both malformed or both not. -/
structure IdentityParts.Equal (ignoreCase : Bool) (parts parts' : IdentityParts) : Prop where
  keys : List.Forall₂ (Expr.Equal ignoreCase) parts.keys parts'.keys
  values : List.Forall₂ (Expr.Equal ignoreCase) parts.values parts'.values
  malformed : parts.malformed = parts'.malformed

namespace IdentityParts.Equal

variable {parts parts' : IdentityParts} {x y : Expr}

/-- Equal keys are collected behind equal parts. -/
theorem addKey (hparts : parts.Equal ignoreCase parts') (h : Expr.Equal ignoreCase x y) :
    (parts.addKey x).Equal ignoreCase (parts'.addKey y) where
  keys := List.rel_append hparts.keys (List.Forall₂.cons h List.Forall₂.nil)
  values := hparts.values
  malformed := hparts.malformed

/-- Equal constants are collected behind equal parts. -/
theorem addValue (hparts : parts.Equal ignoreCase parts') (h : Expr.Equal ignoreCase x y) :
    (parts.addValue x).Equal ignoreCase (parts'.addValue y) where
  keys := hparts.keys
  values := List.rel_append hparts.values (List.Forall₂.cons h List.Forall₂.nil)
  malformed := hparts.malformed

/-- Equal parts stay equal when both are rejected. -/
theorem reject (hparts : parts.Equal ignoreCase parts') :
    parts.reject.Equal ignoreCase parts'.reject where
  keys := hparts.keys
  values := hparts.values
  malformed := rfl

end IdentityParts.Equal

namespace Expr.Equal

/-- **The walk respects equality**: over equal expressions in the same role it collects equal parts
behind equal parts. -/
theorem collect {x y : Expr} (h : Equal ignoreCase x y) (role : IdentityRole)
    {parts parts' : IdentityParts} (hparts : parts.Equal ignoreCase parts') :
    (Expr.collect role x parts).Equal ignoreCase (Expr.collect role y parts') := by
  induction x generalizing y role parts parts' with
  | column source name =>
    cases h with
    | column _ hsource =>
      cases role with
      | key => exact hparts.addKey (.column name hsource)
      | _ => exact hparts.reject
  | level source name =>
    cases h with
    | level _ hsource =>
      cases role with
      | key => exact hparts.addKey (.level name hsource)
      | _ => exact hparts.reject
  | constant value =>
    cases h with
    | constant hvalue =>
      cases role with
      | value => exact hparts.addValue (.constant hvalue)
      | _ => exact hparts.reject
  | and left right ihleft ihright =>
    cases h with
    | and hleft hright =>
      cases role with
      | predicate => exact ihright hright .predicate (ihleft hleft .predicate hparts)
      | _ => exact hparts.reject
  | compare comparison left right ihleft ihright =>
    cases h with
    | compare _ hleft hright =>
      cases role with
      | predicate =>
        cases comparison with
        | equal => exact ihright hright .value (ihleft hleft .key hparts)
        | _ => exact hparts.reject
      | _ => exact hparts.reject
  | _ =>
    cases h
    cases role <;> exact hparts.reject

/-- The parts of equal expressions are equal. -/
theorem identityParts? {x y : Expr} (h : Equal ignoreCase x y) :
    Option.Rel (IdentityParts.Equal ignoreCase) x.identityParts? y.identityParts? := by
  have hempty : IdentityParts.Equal ignoreCase {} {} :=
    ⟨List.Forall₂.nil, List.Forall₂.nil, rfl⟩
  have hparts := h.collect .predicate hempty
  have hkeys : (Expr.collect .predicate x {}).keys.isEmpty =
      (Expr.collect .predicate y {}).keys.isEmpty := by
    rw [Bool.eq_iff_iff, List.isEmpty_iff_length_eq_zero, List.isEmpty_iff_length_eq_zero,
      hparts.keys.length_eq]
  unfold Expr.identityParts?
  dsimp only
  rw [← hparts.malformed, ← hkeys]
  split
  · exact Option.Rel.none
  · exact Option.Rel.some hparts

end Expr.Equal

end Equality

end SemanticQuery
