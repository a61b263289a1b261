import SemanticQuery.Document.CatalogFormat
import SemanticQuery.Proofs.Validation.References

/-!
# Grouping by clean columns

In place of a column that declares key columns one groups by these, as columns of the same source.
The keys are names that were written down with the column, and grouping does not look at what they
name. So one can group by a clean column without violations exactly when each of its keys names a
column of the entity that may be queried.
-/

set_option autoImplicit false

namespace SemanticQuery

/-- The columns to group by in place of a property, if it declares some. -/
def Property.keys (p : Property) : List String :=
  p.traits.elim [] ColumnTraits.keys

/-- Tells whether an entity has a column of a given name that may be queried. -/
def Entity.hasUsableColumn (options : ValidationOptions) (e : Entity) (name : String) : Bool :=
  (e.property? name).any (Property.isUsableAs options .column)

namespace Expr

variable (provider : Provider) (options : ValidationOptions)

/-- The key columns that the field of an expression declares. -/
def declaredKeys (e : Expr) : List String :=
  (e.field? provider).elim [] fun field => field.property.keys

/-! ## The expressions to group by -/

/-- A column is grouped by the keys that it declares, as columns of the same source, or by itself if
it declares none. -/
theorem groupingKeys_column (source : Expr) (name : String) :
    (column source name).groupingKeys provider =
      if (column source name).declaredKeys provider = [] then [column source name]
      else ((column source name).declaredKeys provider).map fun key => column source key := by
  cases hfield : (column source name).field? provider with
  | none => simp [groupingKeys, keyColumns?, declaredKeys, hfield]
  | some field =>
    cases htraits : field.property.traits with
    | none => simp [groupingKeys, keyColumns?, declaredKeys, Property.keys, hfield, htraits]
    | some traits =>
      cases hkeys : traits.keys <;>
        simp [groupingKeys, keyColumns?, declaredKeys, Property.keys, hfield, htraits, hkeys]

/-- Only a column of an entity can have keys, those that the property of its name declares. -/
theorem exists_property_of_declaredKeys {source : Expr} {name : String}
    (h : (column source name).declaredKeys provider ≠ []) :
    ∃ schema entityName localName e p,
      source = .entity schema entityName localName ∧
      provider.entity? schema entityName = some e ∧ e.property? name = some p ∧
      (column source name).declaredKeys provider = p.keys := by
  unfold declaredKeys at h ⊢
  cases hfield : (column source name).field? provider with
  | none =>
    rw [hfield] at h
    exact absurd rfl h
  | some field =>
    cases source with
    | entity schema entityName localName =>
      obtain ⟨e, hentity, hfound⟩ := Option.bind_eq_some_iff.1 hfield
      obtain ⟨p, hproperty, rfl⟩ := Option.map_eq_some_iff.1 hfound
      exact ⟨schema, entityName, localName, e, p, rfl, hentity, hproperty, rfl⟩
    | _ => cases hfield

/-- One groups by the expression itself, or by other columns of the source of a column. -/
theorem eq_or_column_of_mem_groupingKeys {provider : Provider} {e key : Expr}
    (hkey : key ∈ e.groupingKeys provider) :
    key = e ∨ ∃ source name name', e = column source name ∧ key = column source name' := by
  cases e with
  | column source name =>
    rw [groupingKeys_column] at hkey
    split at hkey
    · exact .inl (List.mem_singleton.1 hkey)
    · obtain ⟨name', -, rfl⟩ := List.mem_map.1 hkey
      exact .inr ⟨source, name, name', rfl, rfl⟩
  | _ => exact .inl (List.mem_singleton.1 hkey)

/-! ## Columns of an entity -/

section Entities

variable {schema entityName : String} {e : Entity}

/-- An entity that is there is clean. -/
theorem violations_entity (h : provider.entity? schema entityName = some e)
    (localName : Option String) :
    (entity schema entityName localName).violations provider options = [] := by
  obtain ⟨s, hschema, -⟩ := Option.bind_eq_some_iff.1 h
  rw [violations_eq_flatMap, nodes, List.flatMap_singleton, ownViolations, entityViolations, h,
    hschema]
  rfl

/-- A column of an entity that is there is clean exactly when it may be queried, and otherwise it is
the only violation. -/
theorem violations_column (h : provider.entity? schema entityName = some e)
    (localName : Option String) (name : String) :
    (column (.entity schema entityName localName) name).violations provider options =
      if e.hasUsableColumn options name then [] else [.columnReference entityName name] := by
  have hreference := violations_reference provider options .column
    (.entity schema entityName localName) name
  rw [violations_entity provider options h, List.nil_append] at hreference
  refine hreference.trans ?_
  unfold propertyViolations Entity.hasUsableColumn
  simp only [h]
  cases hproperty : e.property? name with
  | none => rfl
  | some p => simp only [Option.any_some, p.isUsableAs_iff options, PropertyKind.badReference]

end Entities

/-! ## Grouping -/

/-- **What one groups by in place of a clean column.** It is the column itself when no keys are
declared for it. Otherwise the column refers to a property of an entity, and one groups by the keys
that this property declares, in their order and as columns of the same entity. Each of these is
clean when it names a column of the entity that may be queried, and otherwise it is the only
violation. So all of them are clean exactly when every declared key names such a column. -/
theorem groupingKeys_of_clean_column (source : Expr) (name : String)
    (hclean : (column source name).violations provider options = []) :
    ((column source name).declaredKeys provider = [] ∧
      (column source name).groupingKeys provider = [column source name]) ∨
    ∃ schema entityName localName e p,
      source = .entity schema entityName localName ∧
      provider.entity? schema entityName = some e ∧ e.property? name = some p ∧
      p.isUsableAs options .column = true ∧
      (column source name).groupingKeys provider = p.keys.map (fun key => column source key) ∧
      (∀ key, (column source key).violations provider options =
        if e.hasUsableColumn options key then [] else [.columnReference entityName key]) ∧
      ((∀ key ∈ (column source name).groupingKeys provider,
          key.violations provider options = []) ↔
        ∀ key ∈ p.keys, e.hasUsableColumn options key = true) := by
  have hgrouping := groupingKeys_column provider source name
  split at hgrouping
  case isTrue hnone => exact .inl ⟨hnone, hgrouping⟩
  case isFalse hdeclared =>
    right
    obtain ⟨schema, entityName, localName, e, p, rfl, hentity, hproperty, hkeys⟩ :=
      exists_property_of_declaredKeys provider hdeclared
    rw [hkeys] at hgrouping
    have hviolations := violations_column provider options hentity localName
    have husable : p.isUsableAs options .column = true := by
      cases h : p.isUsableAs options .column with
      | true => rfl
      | false => simp [hviolations, Entity.hasUsableColumn, hproperty, h] at hclean
    refine ⟨schema, entityName, localName, e, p, rfl, hentity, hproperty, husable, hgrouping,
      hviolations, ?_⟩
    rw [hgrouping]
    simp [hviolations]

/-- A schema with one entity, `Sales`, whose products are grouped by their numbers. -/
def salesByProductId : Provider := fun name =>
  if name = "s" then
    some ⟨Dictionary.empty.insert "Sales"
      { properties := (Dictionary.empty.insert "Product"
          { kind := .column, type := .text, traits := some { keys := ["ProductId"] } }).insert
            "ProductId" (Property.column .integer) }⟩
  else none

/-- Products are grouped by their numbers without violations. -/
theorem groupingKeys_of_clean_column_of_product :
    (column salesEntity "Product").violations salesByProductId {} = [] ∧
    (column salesEntity "Product").groupingKeys salesByProductId =
      [column salesEntity "ProductId"] ∧
    (column salesEntity "ProductId").violations salesByProductId {} = [] := by
  have hclean : (column salesEntity "Product").violations salesByProductId {} = [] := by decide
  have hgrouping : (column salesEntity "Product").groupingKeys salesByProductId =
      [column salesEntity "ProductId"] := rfl
  refine ⟨hclean, hgrouping, ?_⟩
  obtain ⟨-, hself⟩ | ⟨_, _, _, e, p, hsource, hentity, -, -, -, hviolations, -⟩ :=
    groupingKeys_of_clean_column salesByProductId {} salesEntity "Product" hclean
  · rw [hgrouping] at hself
    simp at hself
  · cases hsource
    rw [hviolations]
    cases hentity
    decide

/-- A catalog in which products are grouped by a column that is in error. -/
def salesByLegacy : String :=
  "[schemas.s.entities.Sales.properties.Product]\n" ++
  "kind = \"column\"\ntype = \"text\"\ncolumn.keys = [\"Legacy\"]\n\n" ++
  "[schemas.s.entities.Sales.properties.Legacy]\n" ++
  "kind = \"column\"\ntype = \"text\"\nqueryable = \"error\"\n"

/-- The catalog can be loaded. Its products are a clean column, and the column that one groups by in
place of them is not clean. -/
theorem clean_column_is_grouped_by_column_in_error :
    ∃ c, Catalog.ofToml salesByLegacy = .ok c ∧
      (column salesEntity "Product").violations c.provider {} = [] ∧
      (column salesEntity "Product").groupingKeys c.provider = [column salesEntity "Legacy"] ∧
      (column salesEntity "Legacy").violations c.provider {} =
        [.columnReference "Sales" "Legacy"] := by
  -- Expressions are not compared by evaluation, so the keys are looked up in place of the columns.
  have hevaluated : (match Catalog.ofToml salesByLegacy with
      | .ok c => decide ((column salesEntity "Product").violations c.provider {} = [] ∧
          (column salesEntity "Product").declaredKeys c.provider = ["Legacy"] ∧
          (column salesEntity "Legacy").violations c.provider {} =
            [.columnReference "Sales" "Legacy"])
      | .error _ => false) = true := by
    decide +kernel
  split at hevaluated
  case h_1 c hloaded =>
    obtain ⟨hproduct, hkeys, hlegacy⟩ := of_decide_eq_true hevaluated
    refine ⟨c, hloaded, hproduct, ?_, hlegacy⟩
    rw [groupingKeys_column, hkeys]
    rfl
  case h_2 => cases hevaluated

end Expr

end SemanticQuery
