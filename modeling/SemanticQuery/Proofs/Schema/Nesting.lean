import SemanticQuery.Proofs.Validation.References

/-!
# Nests of aggregations

An aggregation may be aggregated again, so an expression is a nest of functions around a base that
is no aggregation. The nest has the field of its base, and its values are described exactly when
those of the base are. The two descriptions differ in the outermost function and in the type.

The type is computed from the inside out, and each function looks at the type that the next one
inside has given. `nestedType` reads the nest from the outside: the outermost function that does not
keep the type decides, and it meets numbers if the base has numbers or something beneath it counts.
-/

set_option autoImplicit false

namespace SemanticQuery

namespace AggregateFunction

/-- The functions whose result is a value like those they are applied to. -/
def keepsType : AggregateFunction → Bool
  | sum | min | max => true
  | _ => false

/-- The functions that count. -/
def counts : AggregateFunction → Bool
  | count | countNonNull => true
  | _ => false

/-- A function that keeps the type does not count. -/
theorem counts_eq_false_of_keepsType {function : AggregateFunction}
    (h : function.keepsType = true) : function.counts = false := by
  cases function
  case sum | min | max => rfl
  all_goals cases h

end AggregateFunction

/-! ## The type of a nest -/

namespace Metadata

open AggregateFunction

/-- The type that functions, the outermost one first, give to values of a type. The first of them
that does not keep the type decides: a count gives integers, and an average or the like gives
doubles if what it meets are numbers. -/
def nestedType (functions : List AggregateFunction) (type : ValueType) : ValueType :=
  match functions.dropWhile keepsType with
  | [] => type
  | function :: beneath =>
      if function.counts then .integer
      else if type.isNumeric || beneath.any counts then .double
      else type

/-- A function that keeps the type has no part in the type of a nest. -/
theorem nestedType_cons_of_keepsType {function : AggregateFunction} (h : function.keepsType = true)
    (functions : List AggregateFunction) (type : ValueType) :
    nestedType (function :: functions) type = nestedType functions type := by
  simp [nestedType, h]

/-- A function that does not keep the type decides the type of a nest as its outermost function. -/
theorem nestedType_cons_of_not_keepsType {function : AggregateFunction}
    (h : function.keepsType = false) (functions : List AggregateFunction) (type : ValueType) :
    nestedType (function :: functions) type =
      if function.counts then .integer
      else if type.isNumeric || functions.any counts then .double
      else type := by
  simp [nestedType, h]

/-- A nest gives numbers if it is applied to numbers or one of its functions counts: from there on
outwards all types are numeric. -/
theorem isNumeric_nestedType (functions : List AggregateFunction) (type : ValueType) :
    (nestedType functions type).isNumeric = (type.isNumeric || functions.any counts) := by
  induction functions with
  | nil => simp [nestedType]
  | cons function rest ih =>
    cases hkeeps : function.keepsType with
    | true =>
      rw [nestedType_cons_of_keepsType hkeeps, ih, List.any_cons,
        counts_eq_false_of_keepsType hkeeps, Bool.false_or]
    | false =>
      rw [nestedType_cons_of_not_keepsType hkeeps, List.any_cons]
      cases function.counts with
      | true => simp [ValueType.isNumeric]
      | false =>
        rw [if_neg Bool.false_ne_true, Bool.false_or]
        split
        case isTrue hnumeric => exact hnumeric.symm
        case isFalse hnumeric =>
          have hnone := eq_false_of_ne_true hnumeric
          rw [hnone, (Bool.or_eq_false_iff.1 hnone).1]

/-- Without numbers and counts nothing changes the type. -/
theorem nestedType_eq_self {functions : List AggregateFunction} {type : ValueType}
    (h : (type.isNumeric || functions.any counts) = false) : nestedType functions type = type := by
  rw [Bool.or_eq_false_iff, List.any_eq_false] at h
  unfold nestedType
  split
  case h_1 => rfl
  case h_2 function beneath hdrop =>
    have hsub : function :: beneath ⊆ functions := hdrop ▸ List.dropWhile_subset _
    have hbeneath : beneath.any counts = false :=
      List.any_eq_false.2 fun f hf => h.2 f (hsub (List.mem_cons_of_mem _ hf))
    simp [h.1, hbeneath, h.2 function (hsub (List.mem_cons_self ..))]

/-- The type of an aggregation by what its function does to types. -/
theorem aggregatedType_eq (function : AggregateFunction) (type : ValueType) :
    aggregatedType function type =
      if function.keepsType then type
      else if function.counts then .integer
      else if type.isNumeric then .double
      else type := by
  cases function <;> rfl

/-- **The type of a nest**, computed function by function from the inside, is the one read off from
the outside. -/
theorem foldr_aggregatedType (functions : List AggregateFunction) (type : ValueType) :
    functions.foldr aggregatedType type = nestedType functions type := by
  induction functions with
  | nil => rfl
  | cons function rest ih =>
    rw [List.foldr_cons, ih, aggregatedType_eq]
    cases hkeeps : function.keepsType with
    | true => exact (nestedType_cons_of_keepsType hkeeps rest type).symm
    | false =>
      rw [nestedType_cons_of_not_keepsType hkeeps, isNumeric_nestedType]
      cases hnumeric : (type.isNumeric || rest.any counts) with
      | true => rfl
      | false => rw [nestedType_eq_self hnumeric]; rfl

/-- Aggregating again and again changes the type and sets the outermost function. -/
theorem foldr_aggregated (functions : List AggregateFunction) (m : Metadata) :
    functions.foldr aggregated m =
      { m with
        type := functions.foldr aggregatedType m.type
        aggregate := functions.head?.or m.aggregate } := by
  induction functions with
  | nil => rfl
  | cons function rest ih => rw [List.foldr_cons, ih]; rfl

end Metadata

/-! ## Nests -/

namespace Expr

/-- The nest of functions, the outermost one first, around a base. -/
def nest (functions : List AggregateFunction) (base : Expr) : Expr :=
  functions.foldr aggregation base

variable (provider : Provider)

/-- A nest has the field of its base. -/
theorem field?_nest (functions : List AggregateFunction) (base : Expr) :
    (nest functions base).field? provider = base.field? provider := by
  induction functions with
  | nil => rfl
  | cons function rest ih => exact ih

/-- The description of a nest is that of its base, aggregated by one function after the other. -/
theorem metadata?_nest_eq_foldr (functions : List AggregateFunction) (base : Expr) :
    (nest functions base).metadata? provider =
      (base.metadata? provider).map fun m => functions.foldr Metadata.aggregated m := by
  induction functions with
  | nil => exact Option.map_id'.symm
  | cons function rest ih =>
    show ((nest rest base).metadata? provider).map (Metadata.aggregated function) = _
    rw [ih, Option.map_map]
    rfl

/-- What is no aggregation and has a description is a constant or has a field. -/
theorem isSome_metadata?_iff {base : Expr} (hbase : base.kind ≠ .aggregation) :
    (base.metadata? provider).isSome = true ↔
      base.kind = .constant ∨ (base.field? provider).isSome = true := by
  cases base
  case aggregation => exact absurd rfl hbase
  all_goals simp [metadata?, kind]

/-- What is no aggregation is described without an aggregate. -/
theorem aggregate_eq_none_of_metadata? {base : Expr} {m : Metadata}
    (hbase : base.kind ≠ .aggregation) (h : base.metadata? provider = some m) :
    m.aggregate = none := by
  cases base
  case aggregation => exact absurd rfl hbase
  case constant => cases h; rfl
  all_goals
    obtain ⟨field, -, rfl⟩ := Option.map_eq_some_iff.1 h
    rfl

/-- **Descriptions through a nest of aggregations.** A nest of any depth has the field of its base.
Its values are described exactly when the base is a constant or has a field. Their description is
that of the base but for the aggregate, which is the outermost function, and the type. -/
theorem metadata?_nest (functions : List AggregateFunction) (base : Expr)
    (hbase : base.kind ≠ .aggregation) :
    (nest functions base).field? provider = base.field? provider ∧
    (((nest functions base).metadata? provider).isSome = true ↔
      base.kind = .constant ∨ (base.field? provider).isSome = true) ∧
    (nest functions base).metadata? provider =
      (base.metadata? provider).map fun m =>
        { m with
          type := Metadata.nestedType functions m.type
          aggregate := functions.head? } := by
  refine ⟨field?_nest provider functions base, ?_, ?_⟩
  · rw [metadata?_nest_eq_foldr, Option.isSome_map]
    exact isSome_metadata?_iff provider hbase
  · rw [metadata?_nest_eq_foldr]
    apply Option.map_congr
    intro m hm
    rw [Metadata.foldr_aggregated, Metadata.foldr_aggregatedType,
      aggregate_eq_none_of_metadata? provider hbase hm, Option.or_none]

/-- The sum of a count is an integer, so its average is a double although the column is a text. -/
theorem metadata?_nest_of_averageOfCounts :
    (column salesEntity "Region").kind ≠ .aggregation ∧
    (nest [.max, .avg, .sum, .count] (column salesEntity "Region")).metadata? salesByArea =
      some ⟨.column, .double, none, false, some .max, some .unspecified⟩ := by
  have hbase : (column salesEntity "Region").kind ≠ .aggregation := by decide
  have hnest := (metadata?_nest salesByArea [.max, .avg, .sum, .count] _ hbase).2.2
  refine ⟨hbase, hnest.trans ?_⟩
  decide

end Expr

end SemanticQuery
