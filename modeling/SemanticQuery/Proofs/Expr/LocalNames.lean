import SemanticQuery.Expr.Display
import SemanticQuery.Expr.LocalName
import SemanticQuery.Proofs.Expr.Constant
import SemanticQuery.Proofs.Expr.Shape
import SemanticQuery.Proofs.Expr.LeafRewriting

/-!
# Equality and local names

A missing local name agrees with any other, so equality is not transitive: an entity without a local
name is equal to itself under two different names, which are not equal to each other. This is the
only way in which transitivity fails. Two expressions that are both equal to a third one are equal
unless their local names clash somewhere, that is, unless they give two names to an entity that has
none in the third one (`Equal.equal_iff_not_namesClash`). In particular equality is an equivalence
on expressions without local names, where with regard to case it is identity, and two expressions
are equal after dropping the local names exactly when equality leads from one to the other in two
steps.

Dropping the local names is a rewriting of the leaves, so it reaches every entity, changes nothing
else, and keeps an expression exactly when there is no name to drop.
-/

set_option autoImplicit false

namespace SemanticQuery.Expr

variable {ignoreCase : Bool} {x y z : Expr}

/-! ## Clashing names -/

/-- At some position the entity in the middle has no local name and those on both sides have
different ones. -/
def NamesClash (middle left right : List Expr) : Prop :=
  ∃ (i : Nat) (schema name first second : String), first ≠ second ∧
    middle[i]? = some (.entity schema name none) ∧
    left[i]? = some (.entity schema name (some first)) ∧
    right[i]? = some (.entity schema name (some second))

/-- Expressions that are equal leaf by leaf have no clash. -/
theorem not_namesClash_of_equal {middle left right : List Expr}
    (h : List.Forall₂ (Equal ignoreCase) left right) : ¬ NamesClash middle left right := by
  rintro ⟨i, schema, name, first, second, hne, -, hleft, hright⟩
  have hequal := forall₂_getElem? h hleft hright
  cases hequal with
  | entity _ _ hlocal => exact hne (beq_iff_eq.1 hlocal)

/-- Two leaves that are equal to a third one, but not to each other, are one entity under two
names. -/
theorem names_differ_of_leaf (hleaf : y.isLeaf = true) (hx : Equal ignoreCase y x)
    (hz : Equal ignoreCase y z) (hne : ¬ Equal ignoreCase x z) :
    ∃ schema name first second, first ≠ second ∧ y = .entity schema name none ∧
      x = .entity schema name (some first) ∧ z = .entity schema name (some second) := by
  cases hx with
  | @entity schema name middle left hleft =>
    cases hz with
    | @entity _ _ _ right hright =>
      have hdisagree : localNamesAgree left right ≠ true := fun h => hne (.entity schema name h)
      rcases left with _ | first <;> rcases right with _ | second
      case some.some =>
        have hnames : first ≠ second := fun h => hdisagree (beq_iff_eq.2 h)
        rcases middle with _ | middle
        · exact ⟨schema, name, first, second, hnames, rfl, rfl, rfl⟩
        -- A name in the middle would have to be both of the others.
        · have hfirst : middle = first := beq_iff_eq.1 hleft
          have hsecond : middle = second := beq_iff_eq.1 hright
          exact absurd (hfirst.symm.trans hsecond) hnames
      all_goals exact absurd rfl hdisagree
  | constant hx =>
    cases hz with
    | constant hz =>
      have hequal := Constant.equals_trans (Constant.equals_symm hx) hz
      exact absurd (.constant hequal) hne
  | now | defaultValue | anyValue => exact absurd hz hne
  | _ => cases hleaf

/-- Lists of leaves that both equal the leaves of a third list are equal, unless names clash. -/
theorem equal_of_not_namesClash {middle left right : List Expr}
    (hleft : List.Forall₂ (Equal ignoreCase) middle left)
    (hright : List.Forall₂ (Equal ignoreCase) middle right)
    (hleaf : ∀ a ∈ middle, a.isLeaf = true) (hclash : ¬ NamesClash middle left right) :
    List.Forall₂ (Equal ignoreCase) left right := by
  rw [List.forall₂_iff_get]
  refine ⟨hleft.length_eq.symm.trans hright.length_eq, fun i hi hi' => ?_⟩
  have him : i < middle.length := hleft.length_eq ▸ hi
  by_contra hne
  obtain ⟨schema, name, first, second, hnames, hm, hl, hr⟩ :=
    names_differ_of_leaf (hleaf _ (List.get_mem middle ⟨i, him⟩)) (hleft.get him hi)
      (hright.get him hi') hne
  apply hclash
  exact ⟨i, schema, name, first, second, hnames, List.getElem?_eq_some_iff.2 ⟨him, hm⟩,
    List.getElem?_eq_some_iff.2 ⟨hi, hl⟩, List.getElem?_eq_some_iff.2 ⟨hi', hr⟩⟩

/-- **Two expressions that are equal to a third one are equal unless their local names clash.** -/
theorem Equal.equal_iff_not_namesClash (hx : Equal ignoreCase y x) (hz : Equal ignoreCase y z) :
    Equal ignoreCase x z ↔ ¬ NamesClash y.leaves x.leaves z.leaves := by
  constructor
  · intro h
    exact not_namesClash_of_equal h.leaves
  · intro hclash
    have hleaf (a : Expr) (ha : a ∈ y.leaves) : a.isLeaf = true := ((mem_leaves_iff a y).1 ha).2
    apply equal_of_shape_leaves (hx.shape_eq.symm.trans hz.shape_eq)
    exact equal_of_not_namesClash hx.leaves hz.leaves hleaf hclash

/-! ## Expressions without local names -/

/-- No entity of the expression carries a local name. -/
def Nameless (e : Expr) : Prop :=
  ∀ schema name localName, .entity schema name localName ∈ e.nodes → localName = none

/-- Nothing clashes with an expression without local names. -/
theorem Nameless.not_namesClash (h : x.Nameless) (middle right : List Expr) :
    ¬ NamesClash middle x.leaves right := by
  rintro ⟨i, schema, name, first, second, -, -, hleft, -⟩
  have hnode := ((mem_leaves_iff _ x).1 (List.mem_of_getElem? hleft)).1
  cases h schema name (some first) hnode

/-- Equality can be followed for two steps from an expression without local names. -/
theorem Nameless.equal_trans (h : x.Nameless) (hxy : Equal ignoreCase x y)
    (hyz : Equal ignoreCase y z) : Equal ignoreCase x z :=
  (hxy.symm.equal_iff_not_namesClash hyz).2 (h.not_namesClash y.leaves z.leaves)

/-- Where all local names have been dropped, none is left. -/
theorem nameless_mapLeaves_anonymous (e : Expr) : (e.mapLeaves anonymous).Nameless := by
  intro schema name localName hnode
  have hleaf := (mem_leaves_iff _ _).2 ⟨hnode, rfl⟩
  rw [leaves_mapLeaves (fun _ => isLeaf_anonymous), List.mem_map] at hleaf
  obtain ⟨a, -, ha⟩ := hleaf
  cases a with
  | entity => cases ha; rfl
  | _ => cases ha

/-- Where there is no local name, dropping them changes nothing. -/
theorem mapLeaves_anonymous_of_nameless (h : x.Nameless) : x.mapLeaves anonymous = x := by
  apply mapLeaves_eq_self
  intro a ha
  cases a with
  | entity schema name localName =>
    have hnone := h schema name localName ((mem_leaves_iff _ x).1 ha).1
    rw [hnone]
    rfl
  | _ => rfl

/-- An expression is equal to itself without its local names. -/
theorem equal_mapLeaves_anonymous (e : Expr) : Equal ignoreCase e (e.mapLeaves anonymous) := by
  apply equal_of_shape_leaves (shape_mapLeaves (fun _ => isLeaf_anonymous) e).symm
  rw [leaves_mapLeaves (fun _ => isLeaf_anonymous), List.forall₂_map_right_iff, List.forall₂_same]
  intro a _
  cases a with
  | entity schema name localName =>
    exact .entity schema name (localNamesAgree_symm rfl)
  | _ => exact Equal.refl _

/-- Dropping the local names of equal expressions leads to equal ones. -/
theorem Equal.mapLeaves_anonymous (h : Equal ignoreCase x y) :
    Equal ignoreCase (x.mapLeaves anonymous) (y.mapLeaves anonymous) := by
  have hx := nameless_mapLeaves_anonymous x
  have hxy := hx.equal_trans (equal_mapLeaves_anonymous x).symm h
  exact hx.equal_trans hxy (equal_mapLeaves_anonymous y)

/-- Expressions that are equal with regard to case are the same but for their local names. -/
theorem Equal.mapLeaves_anonymous_eq (h : Equal false x y) :
    x.mapLeaves anonymous = y.mapLeaves anonymous := by
  apply h.mapLeaves_eq
  intro a b hleaf hequal
  cases hequal with
  | entity => rfl
  | constant hvalue =>
    -- Equal constants are spelled alike, and the spelling determines the value.
    have hencoded := ((equals_constant_iff _ _).1 (Equal.constant hvalue).equals).2
    rw [Constant.eq_of_encoded_eq hencoded]
  | now | defaultValue | anyValue => rfl
  | _ => cases hleaf

/-- Expressions without local names that are equal when case counts are the same. -/
theorem Nameless.eq_of_equal (hx : x.Nameless) (hy : y.Nameless) (h : Equal false x y) :
    x = y := by
  have hsame := h.mapLeaves_anonymous_eq
  rwa [mapLeaves_anonymous_of_nameless hx, mapLeaves_anonymous_of_nameless hy] at hsame

/-! ## Dropping local names -/

/-- The rule that drops local names decides about leaves alone. -/
theorem dropLocalNames_onlyLeaves : Rewriter.dropLocalNames.OnlyLeaves := by
  intro e children hinner
  cases e with
  | entity => cases hinner
  | _ => rfl

/-- At a leaf, dropping local names takes the name away. -/
theorem atLeaf_dropLocalNames : Rewriter.dropLocalNames.atLeaf = anonymous := by
  funext e
  cases e with
  | entity schema name localName => cases localName <;> rfl
  | _ => rfl

/-- Dropping the local names makes every entity anonymous. -/
theorem withoutLocalNames_applyTo (e : Expr) :
    e.withoutLocalNames.applyTo e = e.mapLeaves anonymous := by
  rw [withoutLocalNames, applyTo_rewrite dropLocalNames_onlyLeaves.decidesBy]
  exact congrArg (mapLeaves · e) atLeaf_dropLocalNames

/-- The rule keeps every node but an entity with a local name. -/
theorem dropLocalNames_eq_none_iff (a : Expr) :
    Id.run (Rewriter.dropLocalNames a (pure none)) = none ↔
      ∀ schema name localName, a = .entity schema name localName → localName = none := by
  cases a with
  | entity schema name localName =>
    cases localName with
    | none => simp [Rewriter.dropLocalNames]
    | some text =>
      constructor
      · intro h
        cases h
      · intro h
        cases h schema name (some text) rfl
  | _ => simp [Rewriter.dropLocalNames]

/-- An expression is kept exactly when there is no local name to drop. -/
theorem withoutLocalNames_eq_none_iff (e : Expr) : e.withoutLocalNames = none ↔ e.Nameless := by
  rw [withoutLocalNames, rewrite_eq_none_iff dropLocalNames_onlyLeaves.decidesBy]
  simp only [dropLocalNames_eq_none_iff, mem_leaves_iff]
  constructor
  · intro h schema name localName hnode
    exact h _ ⟨hnode, rfl⟩ schema name localName rfl
  · rintro h a ⟨hnode, -⟩ schema name localName rfl
    exact h schema name localName hnode

/-- Dropping local names does not change the kind of a node. -/
theorem kind_mapLeaves_anonymous (e : Expr) : (e.mapLeaves anonymous).kind = e.kind := by
  cases e <;> rfl

/-- **Dropping the local names is complete, harmless and done once.** What remains has no local name
left and differs from the expression in nothing else: its nodes are of the same kinds, the inner
ones agree in all their fields, and the leaves are the old ones made anonymous. The two are equal,
be it with regard to case or not. The second time nothing is left to drop, and the first time the
expression is kept exactly when it has no local name, not even an empty one. -/
theorem withoutLocalNames_drops_localNames_only (e : Expr) :
    let rest := e.withoutLocalNames.applyTo e
    rest.Nameless ∧
    (rest.nodes.map kind = e.nodes.map kind ∧ rest.shape = e.shape ∧
      rest.leaves = e.leaves.map anonymous) ∧
    (∀ ignoreCase, equals ignoreCase rest e = true ∧ equals ignoreCase e rest = true) ∧
    rest.withoutLocalNames = none ∧
    (e.withoutLocalNames = none ↔ e.Nameless) := by
  intro rest
  have hrest : rest = e.mapLeaves anonymous := withoutLocalNames_applyTo e
  have hnameless : rest.Nameless := hrest ▸ nameless_mapLeaves_anonymous e
  have hequal (ignoreCase : Bool) : Equal ignoreCase e rest := hrest ▸ equal_mapLeaves_anonymous e
  have hanonymous (a : Expr) : a.isLeaf = true → a.anonymous.isLeaf = true := isLeaf_anonymous
  refine ⟨hnameless, ⟨?_, ?_, ?_⟩, ?_, ?_, ?_⟩
  · rw [hrest, nodes_mapLeaves hanonymous, List.map_map]
    apply List.map_congr_left
    intro node _
    exact kind_mapLeaves_anonymous node
  · rw [hrest]
    exact shape_mapLeaves hanonymous e
  · rw [hrest]
    exact leaves_mapLeaves hanonymous e
  · intro ignoreCase
    exact ⟨(hequal ignoreCase).symm.equals, (hequal ignoreCase).equals⟩
  · exact (withoutLocalNames_eq_none_iff rest).2 hnameless
  · exact withoutLocalNames_eq_none_iff e

/-! ## Equality up to local names -/

/-- **Local names are the only obstacle to equality being an equivalence.** On expressions without
them it is one, and there expressions that are equal with regard to case have the same text. Any two
expressions are equal after dropping their local names exactly when some expression is equal to
both. -/
theorem equals_equivalence_up_to_localNames :
    (∀ ignoreCase, Equivalence fun x y : { e : Expr // e.Nameless } =>
      equals ignoreCase x.1 y.1 = true) ∧
    (∀ x y : Expr, x.Nameless → y.Nameless → equals false x y = true → x.display = y.display) ∧
    (∀ ignoreCase x y, equals ignoreCase (x.withoutLocalNames.applyTo x)
        (y.withoutLocalNames.applyTo y) = true ↔
      ∃ z, equals ignoreCase x z = true ∧ equals ignoreCase z y = true) := by
  refine ⟨fun ignoreCase => ⟨?_, ?_, ?_⟩, ?_, ?_⟩
  · intro x
    exact (Equal.refl x.1).equals
  · intro x y h
    exact (Equal.of_equals h).symm.equals
  · intro x y z hxy hyz
    exact (x.2.equal_trans (Equal.of_equals hxy) (Equal.of_equals hyz)).equals
  · intro x y hx hy h
    rw [hx.eq_of_equal hy (Equal.of_equals h)]
  · intro ignoreCase x y
    simp only [withoutLocalNames_applyTo, equals_iff]
    have hx := nameless_mapLeaves_anonymous x
    constructor
    · intro h
      refine ⟨x.mapLeaves anonymous, equal_mapLeaves_anonymous x, ?_⟩
      exact hx.equal_trans h (equal_mapLeaves_anonymous y).symm
    · rintro ⟨z, hxz, hzy⟩
      exact hx.equal_trans hxz.mapLeaves_anonymous hzy.mapLeaves_anonymous

/-- The condition that the sold amount is the given one. -/
def amountIs (localName : Option String) (value : Constant) : Expr :=
  .compare .equal (.column (.entity "s" "Sales" localName) "Amount") (.constant value)

/-- Conditions on an amount with its encoding and with the same text as a chosen spelling have one
text; and two different names are two steps apart, though not one. -/
theorem equals_equivalence_up_to_localNames_of_amountIs :
    (amountIs none (Constant.ofDatum oneAndAHalf)).Nameless ∧
    (amountIs none spelledOneAndAHalf).Nameless ∧
    equals false (amountIs none (Constant.ofDatum oneAndAHalf)) (amountIs none spelledOneAndAHalf) =
      true ∧
    (amountIs none (Constant.ofDatum oneAndAHalf)).display =
      (amountIs none spelledOneAndAHalf).display ∧
    equals false (amountIs (some "a") spelledOneAndAHalf) (amountIs (some "b") spelledOneAndAHalf) =
      false ∧
    ∃ z, equals false (amountIs (some "a") spelledOneAndAHalf) z = true ∧
      equals false z (amountIs (some "b") spelledOneAndAHalf) = true := by
  have hnameless (value : Constant) : (amountIs none value).Nameless := by
    intro schema name localName hnode
    simp only [amountIs, nodes, List.cons_append, List.nil_append, List.mem_cons, entity.injEq,
      reduceCtorEq, List.not_mem_nil, or_false] at hnode
    exact hnode.2.2
  have hequal : equals false (amountIs none (Constant.ofDatum oneAndAHalf))
      (amountIs none spelledOneAndAHalf) = true := by
    decide +kernel
  have hnames : equals false (amountIs (some "a") spelledOneAndAHalf)
      (amountIs (some "b") spelledOneAndAHalf) = false := by
    decide +kernel
  refine ⟨hnameless _, hnameless _, hequal, ?_, hnames, ?_⟩
  · exact equals_equivalence_up_to_localNames.2.1 _ _ (hnameless _) (hnameless _) hequal
  · apply (equals_equivalence_up_to_localNames.2.2 false _ _).1
    decide +kernel

end SemanticQuery.Expr
