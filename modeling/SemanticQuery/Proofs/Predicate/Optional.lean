import Mathlib.Data.List.ReduceOption
import SemanticQuery.Proofs.Predicate.Disjunction

/-!
# Optional predicates

A filter is put together from parts each of which may be absent. Starting from nothing, the parts
are combined from the left. What comes out is nothing when there is no part at all; otherwise it is
what the present parts alone would give, in their order, and a lone part is left as it is.

Conjunction and disjunction treat absent operands alike, so both are `Option.merge` of the operation
on present ones. The induction runs along the list with the filter so far: once there is one, an
absent entry does not change it and a present one is combined with it.
-/

set_option autoImplicit false

namespace SemanticQuery

namespace Expr

/-- The optional conjunction merges two optional predicates by conjunction. -/
theorem andOptional_eq_merge (left right : Option Expr) :
    andOptional left right = Option.merge and left right := by
  cases left <;> cases right <;> rfl

/-- The optional disjunction merges two optional predicates by disjunction. -/
theorem orOptional_eq_merge (left right : Option Expr) :
    orOptional left right = Option.merge disjunction left right := by
  cases left <;> cases right <;> rfl

end Expr

open SemanticQuery.Expr

/-! ## Folding over absent entries -/

section Folds

variable {combine : Expr → Expr → Expr}

/-- With a filter at hand, only the present entries are combined with it. -/
theorem foldl_merge_some (entries : List (Option Expr)) (filter : Expr) :
    entries.foldl (Option.merge combine) (some filter) =
      some (entries.reduceOption.foldl combine filter) := by
  induction entries generalizing filter with
  | nil => rfl
  | cons entry entries ih =>
    rw [List.foldl_cons]
    cases entry with
    | none => rw [List.reduceOption_cons_of_none, Option.merge_none_right, ih]
    | some e => rw [List.reduceOption_cons_of_some, List.foldl_cons, Option.merge_some_some, ih]

/-- From nothing, the fold starts with the first entry that is present. -/
theorem foldl_merge_none (entries : List (Option Expr)) :
    entries.foldl (Option.merge combine) none =
      entries.reduceOption.head?.map (entries.reduceOption.tail.foldl combine) := by
  induction entries with
  | nil => rfl
  | cons entry entries ih =>
    rw [List.foldl_cons, Option.merge_none_left]
    cases entry with
    | none => rw [List.reduceOption_cons_of_none, ih]
    | some e =>
      rw [List.reduceOption_cons_of_some, foldl_merge_some, List.head?_cons, List.tail_cons,
        Option.map_some]

/-- What is true of a combination when it is true of both operands is true of a whole fold when it
is true of all that is folded. -/
theorem foldl_iff_forall {P : Expr → Prop}
    (hcombine : ∀ left right, P (combine left right) ↔ P left ∧ P right)
    (first : Expr) (rest : List Expr) :
    P (rest.foldl combine first) ↔ ∀ e ∈ first :: rest, P e := by
  induction rest generalizing first with
  | nil => rw [List.foldl_nil, List.forall_mem_singleton]
  | cons e rest ih =>
    rw [List.foldl_cons, ih, List.forall_mem_cons, List.forall_mem_cons, List.forall_mem_cons,
      hcombine, and_assoc]

/-- Combining optional predicates comes to combining the present ones: without any there is
nothing, a lone one is left as it is, and several are combined from the left in their order. -/
structure CombinesPresent (combineOptional : Option Expr → Option Expr → Option Expr)
    (combine : Expr → Expr → Expr) (entries : List (Option Expr)) : Prop where
  eq_none_iff : entries.foldl combineOptional none = none ↔ ∀ entry ∈ entries, entry = none
  lone : ∀ e, entries.reduceOption = [e] → entries.foldl combineOptional none = some e
  several : ∀ first rest, entries.reduceOption = first :: rest →
    entries.foldl combineOptional none = some (rest.foldl combine first)

/-- Merging optional predicates combines the present ones. -/
theorem combinesPresent_merge (entries : List (Option Expr)) :
    CombinesPresent (Option.merge combine) combine entries := by
  have hseveral : ∀ first rest, entries.reduceOption = first :: rest →
      entries.foldl (Option.merge combine) none = some (rest.foldl combine first) := by
    intro first rest hpresent
    rw [foldl_merge_none, hpresent, List.head?_cons, List.tail_cons, Option.map_some]
  refine ⟨?_, fun e hpresent => hseveral e [] hpresent, hseveral⟩
  rw [foldl_merge_none, Option.map_eq_none_iff, List.head?_eq_none_iff,
    List.reduceOption_eq_nil_iff]
  constructor
  · rintro ⟨count, rfl⟩ entry hentry
    exact List.eq_of_mem_replicate hentry
  · intro habsent
    exact ⟨entries.length, List.eq_replicate_of_mem habsent⟩

/-- A filter that was combined from optional predicates is a fold over the present ones. -/
theorem exists_foldl_of_merge {entries : List (Option Expr)} {filter : Expr}
    (h : entries.foldl (Option.merge combine) none = some filter) :
    ∃ first rest, entries.reduceOption = first :: rest ∧ rest.foldl combine first = filter := by
  rw [foldl_merge_none, Option.map_eq_some_iff] at h
  obtain ⟨first, hfirst, hfilter⟩ := h
  exact ⟨first, _, (List.cons_head?_tail hfirst).symm, hfilter⟩

end Folds

/-! ## Conjunctions and disjunctions of optional predicates -/

namespace Interpretation

variable (I : Interpretation)

/-- A conjunction of several predicates is true exactly if all of them are. -/
theorem holds_foldl_and_iff (first : Expr) (rest : List Expr) :
    I.Holds (rest.foldl .and first) ↔ ∀ e ∈ first :: rest, I.Holds e :=
  foldl_iff_forall (fun _ _ => Iff.rfl) first rest

/-- A disjunction of several predicates is true exactly if one of them is. -/
theorem holds_foldl_disjunction_iff (first : Expr) (rest : List Expr) :
    I.Holds (rest.foldl disjunction first) ↔ ∃ e ∈ first :: rest, I.Holds e := by
  -- A disjunction fails when both operands do, so a chain of them fails when all of them do.
  have hfails (left right : Expr) :
      ¬ I.Holds (disjunction left right) ↔ ¬ I.Holds left ∧ ¬ I.Holds right := by
    rw [I.holds_disjunction_iff, not_or]
  have hall := foldl_iff_forall (P := fun e => ¬ I.Holds e) hfails first rest
  rw [← not_iff_not, hall, not_exists]
  simp only [not_and]

end Interpretation

/-- **Optional predicates are combined as far as they are present.** A conjunction of optional
predicates, and likewise a disjunction with its merging of memberships, is absent exactly when all
of them are; a lone present one is given back as it is; several are combined from the left in their
order. Whenever there is a filter, it is true exactly when all of the present predicates are, in the
case of the disjunction when one of them is. -/
theorem optional_predicates_combine_present (entries : List (Option Expr)) :
    CombinesPresent andOptional .and entries ∧ CombinesPresent orOptional disjunction entries ∧
    ∀ (I : Interpretation) (filter : Expr),
      (entries.foldl andOptional none = some filter →
        (I.Holds filter ↔ ∀ e, some e ∈ entries → I.Holds e)) ∧
      (entries.foldl orOptional none = some filter →
        (I.Holds filter ↔ ∃ e, some e ∈ entries ∧ I.Holds e)) := by
  have hand : andOptional = Option.merge .and := funext₂ andOptional_eq_merge
  have hor : orOptional = Option.merge disjunction := funext₂ orOptional_eq_merge
  rw [hand, hor]
  refine ⟨combinesPresent_merge entries, combinesPresent_merge entries, fun I filter => ⟨?_, ?_⟩⟩
  · intro hfilter
    obtain ⟨first, rest, hpresent, rfl⟩ := exists_foldl_of_merge hfilter
    rw [I.holds_foldl_and_iff, ← hpresent]
    simp only [List.reduceOption_mem_iff]
  · intro hfilter
    obtain ⟨first, rest, hpresent, rfl⟩ := exists_foldl_of_merge hfilter
    rw [I.holds_foldl_disjunction_iff, ← hpresent]
    simp only [List.reduceOption_mem_iff]

end SemanticQuery
