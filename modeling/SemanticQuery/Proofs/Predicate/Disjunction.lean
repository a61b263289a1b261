import SemanticQuery.Proofs.Expr.LocalNames
import SemanticQuery.Proofs.Predicate.Truth

/-!
# Disjunctions that merge

A disjunction is true when one of its operands is, also where it merges two memberships into one:
the merged membership tests the rows of the right operand against the arguments of the left one, and
equal argument lists have the same values position by position.

The arguments of the merged membership are those of the left operand. A further membership is
therefore compared with the first of those that were merged, not with the last, and as equality is
not transitive a chain of disjunctions can bring together what a single one keeps apart. By
`disjunction_merges_iff_not_namesClash` this happens exactly where the two memberships give
different local names to an entity that has none in the arguments kept so far.
-/

set_option autoImplicit false

namespace SemanticQuery

namespace Expr

variable {left right : Expr}

/-- Two memberships over equal argument lists. -/
def Mergeable (left right : Expr) : Prop :=
  ∃ arguments rows arguments' rows', left = .member arguments rows ∧
    right = .member arguments' rows' ∧ equalsAll false arguments arguments' = true

/-- Where there is nothing to merge, the plain disjunction is built. -/
theorem disjunction_of_not_mergeable (h : ¬ Mergeable left right) :
    disjunction left right = .or left right := by
  unfold disjunction
  split
  · rename_i arguments rows arguments' rows'
    apply if_neg
    intro hequal
    exact h ⟨arguments, rows, arguments', rows', rfl, rfl, hequal⟩
  · rfl

/-- A disjunction is a membership exactly if its sides merge. -/
theorem kind_disjunction_eq_member_iff (left right : Expr) :
    (disjunction left right).kind = .member ↔ Mergeable left right := by
  constructor
  · intro hkind
    by_contra h
    rw [disjunction_of_not_mergeable h] at hkind
    cases hkind
  · rintro ⟨arguments, rows, arguments', rows', rfl, rfl, hequal⟩
    rw [disjunction_member rows rows' hequal]
    rfl

/-- Two memberships merge exactly if their argument lists are equal. -/
theorem mergeable_member_iff (arguments arguments' : List Expr) (rows rows' : List (List Expr)) :
    Mergeable (.member arguments rows) (.member arguments' rows') ↔
      equalsAll false arguments arguments' = true := by
  constructor
  · rintro ⟨_, _, _, _, hleft, hright, hequal⟩
    cases hleft
    cases hright
    exact hequal
  · intro hequal
    exact ⟨arguments, rows, arguments', rows', rfl, rfl, hequal⟩

end Expr

open SemanticQuery.Expr

/-! ## The meaning of a disjunction -/

namespace Interpretation

variable (I : Interpretation)

/-- A merged membership is true when one of the two memberships is. -/
theorem holds_member_append {arguments arguments' : List Expr} (rows rows' : List (List Expr))
    (h : equalsAll false arguments arguments' = true) :
    I.Holds (.member arguments (rows ++ rows')) ↔
      I.Holds (.member arguments rows) ∨ I.Holds (.member arguments' rows') := by
  show (∃ row ∈ rows ++ rows', I.Matches arguments row) ↔
    (∃ row ∈ rows, I.Matches arguments row) ∨ ∃ row ∈ rows', I.Matches arguments' row
  constructor
  · rintro ⟨row, hrow, hmatches⟩
    rcases List.mem_append.1 hrow with hrow | hrow
    · exact .inl ⟨row, hrow, hmatches⟩
    · exact .inr ⟨row, hrow, (I.matches_congr h row).1 hmatches⟩
  · rintro (⟨row, hrow, hmatches⟩ | ⟨row, hrow, hmatches⟩)
    · exact ⟨row, List.mem_append_left _ hrow, hmatches⟩
    · exact ⟨row, List.mem_append_right _ hrow, (I.matches_congr h row).2 hmatches⟩

/-- A disjunction, merged or not, is true exactly if one of its sides is. -/
theorem holds_disjunction_iff (left right : Expr) :
    I.Holds (disjunction left right) ↔ I.Holds left ∨ I.Holds right := by
  by_cases h : Mergeable left right
  · obtain ⟨arguments, rows, arguments', rows', rfl, rfl, hequal⟩ := h
    rw [disjunction_member rows rows' hequal]
    exact I.holds_member_append rows rows' hequal
  · rw [disjunction_of_not_mergeable h]
    exact Iff.rfl

end Interpretation

/-- **A disjunction means "or", whether or not it merges.** It is a membership exactly when both
operands are memberships over equal argument lists; it then has the arguments of the left operand
and the rows of the left operand followed by those of the right one. In every other case it is the
plain disjunction of the two. -/
theorem disjunction_means_or (left right : Expr) :
    (∀ I : Interpretation, I.Holds (disjunction left right) ↔ I.Holds left ∨ I.Holds right) ∧
    ((disjunction left right).kind = .member ↔
      ∃ arguments rows arguments' rows', left = .member arguments rows ∧
        right = .member arguments' rows' ∧ equalsAll false arguments arguments' = true) ∧
    (∀ arguments rows arguments' rows', left = .member arguments rows →
      right = .member arguments' rows' → equalsAll false arguments arguments' = true →
      disjunction left right = .member arguments (rows ++ rows')) ∧
    ((disjunction left right).kind ≠ .member → disjunction left right = .or left right) := by
  refine ⟨fun I => I.holds_disjunction_iff left right, kind_disjunction_eq_member_iff left right,
    ?_, ?_⟩
  · rintro arguments rows arguments' rows' rfl rfl hequal
    exact disjunction_member rows rows' hequal
  · intro hkind
    apply disjunction_of_not_mergeable
    intro h
    exact hkind ((kind_disjunction_eq_member_iff left right).2 h)

/-- The membership of the region in a list of texts, where the entity may carry a local name. -/
def regionIn (localName : Option String) (regions : List String) : Expr :=
  .member [.column (.entity "s" "Sales" localName) "Region"]
    (regions.map fun region => [ofDatum (.text region)])

/-- Memberships merge although only one of the two entities has a local name; the predicate that
the region is missing does not merge with a membership. -/
theorem disjunction_means_or_of_regions :
    disjunction (regionIn none ["West", "East"]) (regionIn (some "a") ["North", "West"]) =
      regionIn none ["West", "East", "North", "West"] ∧
    disjunction (regionIn none ["West"]) (.not (regionIn none ["West"])) =
      .or (regionIn none ["West"]) (.not (regionIn none ["West"])) := by
  constructor
  · exact (disjunction_means_or _ _).2.2.1 _ _ _ _ rfl rfl (by decide)
  · exact (disjunction_means_or _ _).2.2.2 (by decide)

/-! ## Chains of disjunctions -/

/-- Argument lists are equal when memberships over them, without rows, are. -/
theorem equalsAll_iff_member (arguments arguments' : List Expr) :
    equalsAll false arguments arguments' = true ↔
      Equal false (.member arguments []) (.member arguments' []) := by
  rw [equalsAll_iff]
  constructor
  · intro h
    exact .member h .nil
  · intro h
    cases h with
    | member harguments _ => exact harguments

/-- **A chain of disjunctions merges what one disjunction merges, unless local names clash.** Let
a membership be merged with a first one, and the result with a second one. Then the first and the
second merge with each other, except when at some position their arguments have two different local
names for an entity that has none in the arguments of the membership they were merged with. -/
theorem disjunction_merges_iff_not_namesClash (kept first second : List Expr)
    (keptRows firstRows secondRows : List (List Expr))
    (hfirst : (disjunction (.member kept keptRows) (.member first firstRows)).kind = .member)
    (hsecond : (disjunction (disjunction (.member kept keptRows) (.member first firstRows))
      (.member second secondRows)).kind = .member) :
    (disjunction (.member first firstRows) (.member second secondRows)).kind = .member ↔
      ¬ NamesClash (kept.flatMap leaves) (first.flatMap leaves) (second.flatMap leaves) := by
  have hleaves (arguments : List Expr) :
      (member arguments []).leaves = arguments.flatMap leaves := by
    rw [leaves_member, List.flatMap_nil, List.append_nil]
  rw [kind_disjunction_eq_member_iff, mergeable_member_iff] at hfirst ⊢
  -- The merged membership has kept the arguments it started with.
  rw [disjunction_member keptRows firstRows hfirst, kind_disjunction_eq_member_iff,
    mergeable_member_iff] at hsecond
  rw [equalsAll_iff_member] at hfirst hsecond ⊢
  rw [hfirst.equal_iff_not_namesClash hsecond, hleaves, hleaves, hleaves]

/-- A name on one side only does no harm. -/
theorem disjunction_merges_iff_not_namesClash_of_regions :
    (disjunction (regionIn none ["West"]) (regionIn (some "a") ["East"])).kind = .member ∧
    (disjunction (disjunction (regionIn none ["West"]) (regionIn (some "a") ["East"]))
      (regionIn none ["North"])).kind = .member ∧
    (disjunction (regionIn (some "a") ["East"]) (regionIn none ["North"])).kind = .member := by
  have hfirst :
      (disjunction (regionIn none ["West"]) (regionIn (some "a") ["East"])).kind = .member := by
    decide
  have hsecond : (disjunction (disjunction (regionIn none ["West"]) (regionIn (some "a") ["East"]))
      (regionIn none ["North"])).kind = .member := by
    decide
  refine ⟨hfirst, hsecond, ?_⟩
  apply (disjunction_merges_iff_not_namesClash _ _ _ _ _ _ hfirst hsecond).2
  rintro ⟨i, schema, name, label, label', -, -, -, hright⟩
  rcases i with _ | i
  · cases hright
  · cases hright

/-- Memberships under two names, which a single disjunction keeps apart, are brought together by
one without a name. -/
theorem nameless_membership_joins_names :
    (disjunction (regionIn none ["West"]) (regionIn (some "a") ["East"])).kind = .member ∧
    (disjunction (disjunction (regionIn none ["West"]) (regionIn (some "a") ["East"]))
      (regionIn (some "b") ["North"])).kind = .member ∧
    (disjunction (regionIn (some "a") ["East"]) (regionIn (some "b") ["North"])).kind = .or := by
  decide

end SemanticQuery
