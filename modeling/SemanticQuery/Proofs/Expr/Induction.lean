import SemanticQuery.Expr.Basic

/-!
# Induction on expressions

A membership holds its subexpressions in a list and in a list of lists, so the induction principle
that comes with the type speaks about those lists as well. `induct` is the principle that is used:
the case of a membership has the motive for every argument and for every entry of every row.
-/

set_option autoImplicit false

namespace SemanticQuery.Expr

/-- **Structural induction**: what holds of an expression whenever it holds of all its immediate
subexpressions holds of every expression. -/
@[elab_as_elim, induction_eliminator]
theorem induct {motive : Expr → Prop}
    (entity : ∀ schema name localName, motive (.entity schema name localName))
    (column : ∀ source name, motive source → motive (.column source name))
    (measure : ∀ source name, motive source → motive (.measure source name))
    (aggregation : ∀ function argument, motive argument →
      motive (.aggregation function argument))
    (variation : ∀ source name property, motive source →
      motive (.variation source name property))
    (hierarchy : ∀ source name, motive source → motive (.hierarchy source name))
    (level : ∀ source name, motive source → motive (.level source name))
    (and : ∀ left right, motive left → motive right → motive (.and left right))
    (or : ∀ left right, motive left → motive right → motive (.or left right))
    (compare : ∀ comparison left right, motive left → motive right →
      motive (.compare comparison left right))
    (between : ∀ argument lower upper, motive argument → motive lower → motive upper →
      motive (.between argument lower upper))
    (member : ∀ arguments rows, (∀ e ∈ arguments, motive e) →
      (∀ row ∈ rows, ∀ e ∈ row, motive e) → motive (.member arguments rows))
    (contains : ∀ left right, motive left → motive right → motive (.contains left right))
    (startsWith : ∀ left right, motive left → motive right → motive (.startsWith left right))
    (nonempty : ∀ argument, motive argument → motive (.nonempty argument))
    (not : ∀ argument, motive argument → motive (.not argument))
    (constant : ∀ value, motive (.constant value))
    (dateSpan : ∀ unit argument, motive argument → motive (.dateSpan unit argument))
    (dateAdd : ∀ unit amount argument, motive argument →
      motive (.dateAdd unit amount argument))
    (now : motive .now) (defaultValue : motive .defaultValue) (anyValue : motive .anyValue)
    (e : Expr) : motive e := by
  refine Expr.rec (motive_1 := motive) (motive_2 := fun es => ∀ e ∈ es, motive e)
    (motive_3 := fun rows => ∀ row ∈ rows, ∀ e ∈ row, motive e) entity column measure aggregation
    variation hierarchy level and or compare between member contains startsWith nonempty not
    constant dateSpan dateAdd now defaultValue anyValue ?_ ?_ ?_ ?_ e
  · intro e he
    cases he
  · intro head tail hhead htail e he
    rcases List.mem_cons.1 he with rfl | he
    · exact hhead
    · exact htail e he
  · intro row hrow
    cases hrow
  · intro head tail hhead htail row hrow
    rcases List.mem_cons.1 hrow with rfl | hrow
    · exact hhead
    · exact htail row hrow

/-- The nodes of a list are the nodes of its entries, one entry after the other. -/
theorem nodesOfAll_eq_flatMap (es : List Expr) : nodesOfAll es = es.flatMap nodes := by
  induction es with
  | nil => rfl
  | cons e rest ih => rw [nodesOfAll, ih, List.flatMap_cons]

/-- The nodes of the rows are the nodes of their entries, row by row. -/
theorem nodesOfRows_eq_flatMap (rows : List (List Expr)) :
    nodesOfRows rows = rows.flatMap fun row => row.flatMap nodes := by
  induction rows with
  | nil => rfl
  | cons row rest ih => rw [nodesOfRows, ih, nodesOfAll_eq_flatMap, List.flatMap_cons]

/-! ## Children -/

/-- The immediate subexpressions in the order of the fields; those of a membership are its arguments
and then the entries of its rows. -/
def children : Expr → List Expr
  | entity _ _ _ | constant _ | now | defaultValue | anyValue => []
  | column child _ | measure child _ | aggregation _ child | variation child _ _
  | hierarchy child _ | level child _ | nonempty child | not child | dateSpan _ child
  | dateAdd _ _ child => [child]
  | and left right | or left right | compare _ left right | contains left right
  | startsWith left right => [left, right]
  | between argument lower upper => [argument, lower, upper]
  | member arguments rows => arguments ++ rows.flatten

/-- The nodes of an expression are those of its children and its root. -/
theorem nodes_eq_children (e : Expr) : e.nodes = e.children.flatMap nodes ++ [e] := by
  cases e
  case member arguments rows =>
    rw [nodes, children, nodesOfAll_eq_flatMap, nodesOfRows_eq_flatMap, List.flatMap_append,
      ← List.flatMap_id, List.flatMap_assoc]
    rfl
  all_goals
    simp only [nodes, children, List.flatMap_cons, List.flatMap_nil, List.nil_append,
      List.append_nil, List.append_assoc]

/-- Structural induction in one case. -/
theorem induct_children {motive : Expr → Prop}
    (h : ∀ e, (∀ child ∈ e.children, motive child) → motive e) (e : Expr) : motive e := by
  induction e <;> apply h
  case entity | constant | now | defaultValue | anyValue => exact List.forall_mem_nil _
  case column ih | measure ih | aggregation ih | variation ih | hierarchy ih | level ih
      | nonempty ih | not ih | dateSpan ih | dateAdd ih =>
    exact List.forall_mem_singleton.2 ih
  case and ihleft ihright | or ihleft ihright | compare ihleft ihright
      | contains ihleft ihright | startsWith ihleft ihright =>
    exact List.forall_mem_cons.2 ⟨ihleft, List.forall_mem_singleton.2 ihright⟩
  case between ihargument ihlower ihupper =>
    have hbounds := List.forall_mem_cons.2 ⟨ihlower, List.forall_mem_singleton.2 ihupper⟩
    exact List.forall_mem_cons.2 ⟨ihargument, hbounds⟩
  case member iharguments ihrows =>
    intro child hchild
    rcases List.mem_append.1 hchild with hargument | hentry
    · exact iharguments child hargument
    · obtain ⟨row, hrow, hentry⟩ := List.mem_flatten.1 hentry
      exact ihrows row hrow child hentry

/-! ## Nodes -/

/-- The root of an expression is one of its nodes. -/
theorem self_mem_nodes (e : Expr) : e ∈ e.nodes := by
  rw [nodes_eq_children]
  exact List.mem_append_right _ (List.mem_singleton_self e)

/-- The nodes of a node of an expression are nodes of the expression. -/
theorem mem_nodes_trans {node inner e : Expr} (hnode : node ∈ inner.nodes)
    (h : inner ∈ e.nodes) : node ∈ e.nodes := by
  induction e using induct_children with
  | h e ih =>
    rw [nodes_eq_children] at h
    rcases List.mem_append.1 h with hbelow | hself
    · obtain ⟨child, hchild, hinner⟩ := List.mem_flatMap.1 hbelow
      rw [nodes_eq_children]
      exact List.mem_append_left _ (List.mem_flatMap.2 ⟨child, hchild, ih child hchild hinner⟩)
    · rw [← List.mem_singleton.1 hself]
      exact hnode

end SemanticQuery.Expr
