import SemanticQuery.Proofs.Expr.RowIdentity
import SemanticQuery.Proofs.Predicate.Truth

/-!
# Selections as filters

A selection is a list of row identities over the same keys. Each identity becomes a membership with
one row, and the disjunction of these memberships, taken from the left, collapses step by step into
a single membership with the keys of the first identity and one row for each identity. It is true
exactly when one of the identities is.

The induction runs along the list. What a step keeps is that the filter so far is a membership over
the keys of the first identity; the keys of the next identity are equal to them, so the next
disjunction merges again.
-/

set_option autoImplicit false

namespace SemanticQuery

open SemanticQuery.Expr

/-- An identity is true when every one of its keys has the value of its constant. -/
theorem holds_identity_iff (I : Interpretation) {e : Expr} {equations : List (Expr × Constant)}
    (h : Identity e equations) :
    I.Holds e ↔ I.Matches (keysOf equations) (valuesOf equations) := by
  have hpairs : I.Matches (keysOf equations) (valuesOf equations) ↔
      ∀ equation ∈ equations, I.value equation.1 = I.value (.constant equation.2) := by
    rw [Interpretation.Matches, keysOf, valuesOf, List.forall₂_map_left_iff,
      List.forall₂_map_right_iff, List.forall₂_same]
  rw [hpairs]
  clear hpairs
  induction h with
  | equation hkey value =>
    rw [List.forall_mem_singleton]
    exact Iff.rfl
  | and _ _ ihleft ihright =>
    rw [List.forall_mem_append]
    exact and_congr ihleft ihright

/-- The row of constants that an identity contributes to a filter. -/
def IsRowOf (e : Expr) (row : List Expr) : Prop :=
  ∃ equations, Identity e equations ∧ row = valuesOf equations

/-- An expression whose keys are known is an identity with those keys. -/
theorem exists_identity_of_keys {e : Expr} {keys : List Expr} (h : e.identityKeys? = some keys) :
    ∃ equations, Identity e equations ∧ keysOf equations = keys := by
  have hsome : e.identityKeys?.isSome = true := by
    rw [h]
    rfl
  obtain ⟨equations, hidentity⟩ := (identityKeys?_isSome_iff e).1 hsome
  refine ⟨equations, hidentity, ?_⟩
  rw [identityKeys?, hidentity.identityParts?] at h
  exact Option.some.inj h

/-- What is known of an identity whose keys are equal to given ones: its membership has a single row
that fits the given keys, and it is true when they have the values of the row. -/
theorem exists_row_of_keys {e : Expr} {keys keys' : List Expr} (h : e.identityKeys? = some keys')
    (hkeys : equalsAll false keys' keys = true) :
    ∃ row, IsRowOf e row ∧ row.length = keys.length ∧
      e.identityMembership? = some (.member keys' [row]) ∧
      ∀ I : Interpretation, I.Holds e ↔ I.Matches keys row := by
  obtain ⟨equations, hidentity, rfl⟩ := exists_identity_of_keys h
  refine ⟨valuesOf equations, ⟨equations, hidentity, rfl⟩, ?_, ?_, fun I => ?_⟩
  · rw [length_valuesOf]
    exact ((equalsAll_iff _ _).1 hkeys).length_eq
  · rw [identityMembership?, hidentity.identityParts?, Option.map_some]
  · rw [holds_identity_iff I hidentity, I.matches_congr hkeys]

/-- One disjunction after the other, the rows of the remaining identities are appended to the filter
so far. -/
theorem foldl_disjunction_selection {keys : List Expr} (rest : List Expr)
    (hrest : ∀ e ∈ rest, ∃ keys', e.identityKeys? = some keys' ∧ equalsAll false keys' keys = true)
    (before : List (List Expr)) :
    ∃ filters rows,
      List.Forall₂ (fun e filter => e.identityMembership? = some filter) rest filters ∧
      filters.foldl disjunction (.member keys before) = .member keys (before ++ rows) ∧
      List.Forall₂ IsRowOf rest rows ∧
      (∀ row ∈ rows, row.length = keys.length) ∧
      ∀ I : Interpretation, (∃ row ∈ rows, I.Matches keys row) ↔ ∃ e ∈ rest, I.Holds e := by
  induction rest generalizing before with
  | nil =>
    refine ⟨[], [], List.Forall₂.nil, ?_, List.Forall₂.nil, ?_, fun I => ?_⟩
    · rw [List.foldl_nil, List.append_nil]
    · exact List.forall_mem_nil _
    · simp only [List.not_mem_nil, false_and, exists_false]
  | cons e rest ih =>
    obtain ⟨keys', hkeys', hequal⟩ := hrest e (List.mem_cons_self ..)
    obtain ⟨row, hrow, hlength, hmembership, hholds⟩ := exists_row_of_keys hkeys' hequal
    -- After this step the filter so far ends in the row of `e`.
    obtain ⟨filters, rows, hfilters, hfold, hrows, hlengths, htruth⟩ :=
      ih (fun other hother => hrest other (List.mem_cons_of_mem _ hother)) (before ++ [row])
    refine ⟨.member keys' [row] :: filters, row :: rows, List.Forall₂.cons hmembership hfilters,
      ?_, List.Forall₂.cons hrow hrows, ?_, fun I => ?_⟩
    · rw [List.foldl_cons, disjunction_member before [row] (equalsAll_symm hequal), hfold,
        List.append_assoc, List.singleton_append]
    · exact List.forall_mem_cons.2 ⟨hlength, hlengths⟩
    · rw [List.exists_mem_cons_iff, List.exists_mem_cons_iff, htruth I, hholds I]

/-- **A selection becomes a filter with its meaning.** Of a first identity and further ones over
equal keys, the disjunction of the memberships from the left is one membership with the keys of the
first identity and the row of every identity, in their order. It is a membership that can be built,
for its rows fit, and under every interpretation it is true exactly when one of the identities
is. -/
theorem selection_filter_holds_iff (first : Expr) (rest keys : List Expr)
    (hfirst : first.identityKeys? = some keys)
    (hrest : ∀ e ∈ rest, ∃ keys', e.identityKeys? = some keys' ∧
      equalsAll false keys' keys = true) :
    ∃ filter filters rows,
      first.identityMembership? = some filter ∧
      List.Forall₂ (fun e filter => e.identityMembership? = some filter) rest filters ∧
      List.Forall₂ IsRowOf (first :: rest) rows ∧
      filters.foldl disjunction filter = .member keys rows ∧
      membership keys rows = .ok (.member keys rows) ∧
      ∀ I : Interpretation, I.Holds (.member keys rows) ↔ ∃ e ∈ first :: rest, I.Holds e := by
  have hself : equalsAll false keys keys = true := equalsAll_refl keys
  obtain ⟨row, hrow, hlength, hmembership, hholds⟩ := exists_row_of_keys hfirst hself
  obtain ⟨filters, rows, hfilters, hfold, hrows, hlengths, htruth⟩ :=
    foldl_disjunction_selection rest hrest [row]
  have hfits : rowsFit keys (row :: rows) = true := by
    rw [rowsFit, List.all_eq_true]
    intro other hother
    rw [beq_iff_eq]
    rcases List.mem_cons.1 hother with rfl | hother
    · exact hlength
    · exact hlengths other hother
  refine ⟨.member keys [row], filters, row :: rows, hmembership, hfilters,
    List.Forall₂.cons hrow hrows, hfold, ?_, fun I => ?_⟩
  · rw [membership, if_pos hfits]
  · show (∃ other ∈ row :: rows, I.Matches keys other) ↔ _
    rw [List.exists_mem_cons_iff, List.exists_mem_cons_iff, htruth I, hholds I]

/-- A column of the entity `Sales`, which may carry a local name. -/
def salesColumn (localName : Option String) (name : String) : Expr :=
  .column (.entity "s" "Sales" localName) name

/-- The identity of a row by its region and its product. -/
def regionAndProduct (localName : Option String) (region product : String) : Expr :=
  .and (.compare .equal (salesColumn localName "Region") (ofDatum (.text region)))
    (.compare .equal (salesColumn localName "Product") (ofDatum (.text product)))

/-- Two rows are selected, one of them through an entity with a local name. -/
theorem selection_filter_holds_iff_of_regions :
    ∃ filter filters rows,
      (regionAndProduct none "West" "Tea").identityMembership? = some filter ∧
      List.Forall₂ (fun e filter => e.identityMembership? = some filter)
        [regionAndProduct (some "a") "East" "Tea"] filters ∧
      List.Forall₂ IsRowOf
        [regionAndProduct none "West" "Tea", regionAndProduct (some "a") "East" "Tea"] rows ∧
      filters.foldl disjunction filter =
        .member [salesColumn none "Region", salesColumn none "Product"] rows ∧
      membership [salesColumn none "Region", salesColumn none "Product"] rows =
        .ok (.member [salesColumn none "Region", salesColumn none "Product"] rows) ∧
      ∀ I : Interpretation,
        I.Holds (.member [salesColumn none "Region", salesColumn none "Product"] rows) ↔
          ∃ e ∈ [regionAndProduct none "West" "Tea", regionAndProduct (some "a") "East" "Tea"],
            I.Holds e := by
  refine selection_filter_holds_iff (regionAndProduct none "West" "Tea")
    [regionAndProduct (some "a") "East" "Tea"]
    [salesColumn none "Region", salesColumn none "Product"] rfl ?_
  rw [List.forall_mem_singleton]
  exact ⟨[salesColumn (some "a") "Region", salesColumn (some "a") "Product"], rfl, by decide⟩

end SemanticQuery
