import SemanticQuery.Proofs.Validation.Report

/-!
# What a clean report says about references

An expression refers to properties by columns and measures of a source and by levels of a hierarchy.
A clean report says that every entity in the expression exists and that every column or measure of
an entity refers to a property that is there, has the right kind and can be queried.

It says nothing about the other shapes. A column or measure of anything but an entity is not judged,
and never refers to a field. A hierarchy and a level are not judged either: their names can be
replaced by any others in a clean expression, so a level may lead nowhere, or to a property that is
in error.
-/

set_option autoImplicit false

namespace SemanticQuery

namespace PropertyKind

/-- The reference to a property of a source as one of the given kind. -/
def reference : PropertyKind → Expr → String → Expr
  | column => .column
  | measure => .measure

end PropertyKind

namespace Expr

variable (provider : Provider) (options : ValidationOptions)

/-- The expression refers to a property of the given kind that can be queried. -/
def RefersTo (kind : PropertyKind) (e : Expr) : Prop :=
  ∃ field, e.field? provider = some field ∧ field.property.kind = kind ∧
    field.property.isQueryable = true

/-! ## Clean expressions -/

/-- A report is clean exactly when nothing is wrong with any node. -/
theorem violations_eq_nil_iff (e : Expr) :
    e.violations provider options = [] ↔
      ∀ node ∈ e.nodes, node.ownViolations provider options = [] := by
  rw [violations_eq_flatMap, List.flatMap_eq_nil_iff]

/-- The nodes of a clean expression are clean. -/
theorem violations_eq_nil_of_mem {node e : Expr} (hnode : node ∈ e.nodes)
    (h : e.violations provider options = []) : node.violations provider options = [] := by
  rw [violations_eq_nil_iff] at h ⊢
  intro inner hinner
  exact h inner (mem_nodes_trans hinner hnode)

/-- A clean entity exists. -/
theorem isSome_entity?_of_clean {schema name : String} {localName : Option String}
    (h : (entity schema name localName).violations provider options = []) :
    (provider.entity? schema name).isSome = true := by
  have hown : entityViolations provider schema name = [] :=
    (violations_eq_nil_iff provider options _).1 h _ (self_mem_nodes _)
  unfold entityViolations at hown
  cases hentity : provider.entity? schema name with
  | some e => rfl
  | none =>
    rw [hentity] at hown
    split at hown <;> cases hown

/-- What is wrong with a reference is wrong with its source, or it is the violation of the reference
itself. -/
theorem violations_reference (kind : PropertyKind) (source : Expr) (name : String) :
    (kind.reference source name).violations provider options =
      source.violations provider options ++
        propertyViolations provider options kind source name := by
  cases kind <;>
    rw [violations_eq_flatMap, violations_eq_flatMap, PropertyKind.reference, nodes,
      List.flatMap_append, List.flatMap_singleton, ownViolations]

/-- The field of a reference is the property of that name of the entity that is its source. -/
theorem field?_reference (kind : PropertyKind) (source : Expr) (name : String) :
    (kind.reference source name).field? provider =
      (source.namedEntity? provider).bind fun e => e.field? name := by
  cases kind <;> rw [PropertyKind.reference, field?]

/-- Over anything but an entity a reference refers to nothing. -/
theorem not_refersTo (kind : PropertyKind) {source : Expr} (name : String)
    (h : source.kind ≠ .entity) : ¬ (kind.reference source name).RefersTo provider kind := by
  rintro ⟨field, hfield, -⟩
  rw [field?_reference] at hfield
  cases source with
  | entity => exact h rfl
  | _ => cases hfield

/-- A clean reference over an entity refers to a property of its kind that can be queried. -/
theorem refersTo_of_clean {kind : PropertyKind} {schema entityName : String}
    {localName : Option String} {name : String}
    (h : (kind.reference (.entity schema entityName localName) name).violations provider {} =
      []) :
    (kind.reference (.entity schema entityName localName) name).RefersTo provider kind := by
  rw [violations_reference, List.append_eq_nil_iff] at h
  obtain ⟨hsource, hown⟩ := h
  obtain ⟨e, hentity⟩ := Option.isSome_iff_exists.1 (isSome_entity?_of_clean provider {} hsource)
  simp only [propertyViolations, hentity] at hown
  cases hproperty : e.property? name with
  | none =>
    rw [hproperty] at hown
    cases hown
  | some p =>
    simp only [hproperty] at hown
    split at hown
    case isFalse => cases hown
    case isTrue husable =>
      have hqueryable : p.queryable = .queryable := husable.2.resolve_right (by decide)
      refine ⟨⟨e, name, p⟩, ?_, husable.1, ?_⟩
      · rw [field?_reference, namedEntity?, hentity, Option.bind_some, Entity.field?, hproperty,
          Option.map_some]
      · show (p.queryable == .queryable) = true
        rw [hqueryable, beq_self_eq_true]

/-- A level is as clean as what its hierarchy belongs to. -/
theorem violations_level_hierarchy (owner : Expr) (hierarchyName levelName : String) :
    (level (.hierarchy owner hierarchyName) levelName).violations provider options =
      owner.violations provider options := by
  have hlevel : (level (.hierarchy owner hierarchyName) levelName).ownViolations provider options =
      [] := rfl
  have hhierarchy : (hierarchy owner hierarchyName).ownViolations provider options = [] := rfl
  rw [violations_eq_flatMap, violations_eq_flatMap, nodes, nodes, List.flatMap_append,
    List.flatMap_append, List.flatMap_singleton, List.flatMap_singleton, hlevel, hhierarchy,
    List.append_nil, List.append_nil]

/-! ## The guarantee -/

/-- **What a clean report guarantees.** In an expression without violations every entity exists; a
column or a measure refers to a property of its kind that can be queried exactly when its source is
an entity; and a level stays without violations whatever hierarchy and level it names. -/
theorem references_of_clean_report (e node : Expr) (hclean : e.violations provider {} = [])
    (hnode : node ∈ e.nodes) :
    (∀ schema name localName, node = .entity schema name localName →
      (provider.entity? schema name).isSome = true) ∧
    (∀ kind source name, node = PropertyKind.reference kind source name →
      (node.RefersTo provider kind ↔ source.kind = .entity)) ∧
    (∀ owner hierarchyName levelName, node = .level (.hierarchy owner hierarchyName) levelName →
      ∀ hierarchyName' levelName',
        (level (.hierarchy owner hierarchyName') levelName').violations provider {} = []) := by
  have hnodeClean := violations_eq_nil_of_mem provider {} hnode hclean
  refine ⟨?_, ?_, ?_⟩
  · rintro schema name localName rfl
    exact isSome_entity?_of_clean provider {} hnodeClean
  · rintro kind source name rfl
    cases source with
    | entity schema entityName localName =>
      exact iff_of_true (refersTo_of_clean provider hnodeClean) rfl
    | _ =>
      refine iff_of_false (not_refersTo provider kind name ?_) ?_ <;> exact Kind.noConfusion
  · rintro owner hierarchyName levelName rfl hierarchyName' levelName'
    rw [violations_level_hierarchy] at hnodeClean ⊢
    exact hnodeClean

/-- A schema with one entity, `Sales`, that has the hierarchy `Areas` with the level `Area`, which
shows a column in error. -/
def salesByArea : Provider := fun name =>
  if name = "s" then
    some ⟨Dictionary.empty.insert "Sales"
      { properties := (Dictionary.empty.insert "Legacy"
          { kind := .column, type := .text, queryable := .error, traits := some {} }).insert
            "Region" (Property.column .text)
        hierarchies := [⟨"Areas", [⟨"Area", "Legacy"⟩]⟩] }⟩
  else none

/-- The entity `Sales`. -/
def salesEntity : Expr := .entity "s" "Sales" none

/-- A condition on a column of `Sales` is clean, and the column refers to a property. -/
theorem references_of_clean_report_of_region :
    (nonempty (column salesEntity "Region")).violations salesByArea {} = [] ∧
    column salesEntity "Region" ∈ (nonempty (column salesEntity "Region")).nodes ∧
    (column salesEntity "Region").RefersTo salesByArea .column := by
  have hclean : (nonempty (column salesEntity "Region")).violations salesByArea {} = [] := by decide
  have hnode : column salesEntity "Region" ∈ (nonempty (column salesEntity "Region")).nodes :=
    mem_nodes_trans (self_mem_nodes _) (List.mem_append_left _ (self_mem_nodes _))
  have hreference := (references_of_clean_report salesByArea _ _ hclean hnode).2.1
  exact ⟨hclean, hnode, (hreference .column salesEntity "Region" rfl).2 rfl⟩

/-- A clean report does not make every reference one to a property that can be queried: it is clean
for a level that shows a column in error, for a level of a hierarchy that does not exist, and for a
column of something that is no entity. -/
theorem clean_report_overlooks_references :
    ((level (.hierarchy salesEntity "Areas") "Area").violations salesByArea {} = [] ∧
      ((level (.hierarchy salesEntity "Areas") "Area").field? salesByArea).map
        (fun field => field.property.isQueryable) = some false) ∧
    ((level (.hierarchy salesEntity "Zones") "Zone").violations salesByArea {} = [] ∧
      ((level (.hierarchy salesEntity "Zones") "Zone").field? salesByArea).isNone = true) ∧
    ((column .now "Region").violations salesByArea {} = [] ∧
      ((column .now "Region").field? salesByArea).isNone = true) := by
  refine ⟨⟨?_, ?_⟩, ⟨?_, ?_⟩, ⟨?_, ?_⟩⟩ <;> decide

end Expr

end SemanticQuery
