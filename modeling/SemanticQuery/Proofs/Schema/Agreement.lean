import SemanticQuery.Proofs.Schema.Consistency
import SemanticQuery.Proofs.Validation.Report

/-!
# What an expression sees of the schemas

All that is computed from an expression looks the schemas up at its nodes: an entity is looked up
by its name, and a variation of an entity is followed to its target. Two providers that agree at
every node of the expression are therefore not told apart by it. They describe it alike, offer the
same aggregates and keys, and report the same violations.

Setting an entity in a catalog changes a single look-up. An expression sees the change where it
names that entity, or where it follows a variation that leads there; and if the schema is a new
one, wherever it names the schema. In all other cases nothing that is computed from it changes.
-/

set_option autoImplicit false

namespace SemanticQuery

/-- Two providers agree at every node of an expression: they know the same of the schemas that its
entities name, and give access to the same entities. -/
structure Provider.AgreeOn (p q : Provider) (e : Expr) : Prop where
  isNone : ∀ schema name localName, .entity schema name localName ∈ e.nodes →
    (p schema).isNone = (q schema).isNone
  owner : ∀ node ∈ e.nodes, node.hierarchyOwner? p = node.hierarchyOwner? q

namespace Provider.AgreeOn

variable {p q : Provider} {e : Expr}

/-- Providers that agree at every node of an expression agree at every node of each of its nodes. -/
theorem node (h : AgreeOn p q e) {node : Expr} (hnode : node ∈ e.nodes) : AgreeOn p q node where
  isNone schema name localName hentity :=
    h.isNone schema name localName (Expr.mem_nodes_trans hentity hnode)
  owner inner hinner := h.owner inner (Expr.mem_nodes_trans hinner hnode)

/-- Providers that agree at every node of an expression agree at every node of each child. -/
theorem child (h : AgreeOn p q e) {child : Expr} (hchild : child ∈ e.children) :
    AgreeOn p q child := by
  apply h.node
  rw [Expr.nodes_eq_children]
  exact List.mem_append_left _ (List.mem_flatMap.2 ⟨child, hchild, Expr.self_mem_nodes child⟩)

/-- They give the root access to the same entity. -/
theorem hierarchyOwner?_eq (h : AgreeOn p q e) : e.hierarchyOwner? p = e.hierarchyOwner? q :=
  h.owner e (Expr.self_mem_nodes e)

/-! ## Fields and what follows from them -/

/-- They know the root by the same entity, if it names one. -/
theorem namedEntity?_eq (h : AgreeOn p q e) : e.namedEntity? p = e.namedEntity? q := by
  cases e with
  | entity schema name localName => exact h.hierarchyOwner?_eq
  | _ => rfl

/-- They find the same field. By induction, since an aggregation has the field of its argument. -/
theorem field?_eq (h : AgreeOn p q e) : e.field? p = e.field? q := by
  induction e with
  | column source name ih =>
    have hsource := h.child (List.mem_singleton_self source)
    rw [Expr.field?, Expr.field?, hsource.namedEntity?_eq]
  | measure source name ih =>
    have hsource := h.child (List.mem_singleton_self source)
    rw [Expr.field?, Expr.field?, hsource.namedEntity?_eq]
  | level source name ih =>
    have hsource := h.child (List.mem_singleton_self source)
    cases source with
    | hierarchy owner hierarchyName =>
      have howner := hsource.child (List.mem_singleton_self owner)
      rw [Expr.field?, Expr.field?, howner.hierarchyOwner?_eq]
    | _ => rfl
  | aggregation function argument ih => exact ih (h.child (List.mem_singleton_self argument))
  | _ => rfl

/-- They describe the expression alike. By induction, since an aggregation is described by what
describes its argument. -/
theorem metadata?_eq (h : AgreeOn p q e) : e.metadata? p = e.metadata? q := by
  induction e
  case constant => rfl
  case aggregation function argument ih =>
    rw [Expr.metadata?, Expr.metadata?, ih (h.child (List.mem_singleton_self argument))]
  all_goals simp only [Expr.metadata?, h.field?_eq]

/-- They support the same aggregates of the expression. -/
theorem supportedAggregates_eq (h : AgreeOn p q e) :
    e.supportedAggregates p = e.supportedAggregates q :=
  Expr.supportedAggregates_congr h.field?_eq

/-- They have the same default for the expression. -/
theorem defaultAggregate?_eq (h : AgreeOn p q e) (force : Bool) :
    e.defaultAggregate? p force = e.defaultAggregate? q force := by
  cases e with
  | aggregation => rfl
  | _ => simp only [Expr.defaultAggregate?, h.field?_eq]

/-- They aggregate the expression in the same way. -/
theorem aggregated_eq (h : AgreeOn p q e) (options : AggregationOptions) :
    e.aggregated p options = e.aggregated q options := by
  have hchosen := Expr.chosenAggregate?_congr h.supportedAggregates_eq
    (h.defaultAggregate?_eq false) options
  rw [Expr.aggregated, Expr.aggregated, hchosen]

/-- They find the same grouping keys. -/
theorem groupingKeys_eq (h : AgreeOn p q e) : e.groupingKeys p = e.groupingKeys q := by
  cases e with
  | column source name => simp only [Expr.groupingKeys, Expr.keyColumns?, h.field?_eq]
  | _ => rfl

/-! ## Reports -/

section Reports

variable (options : ValidationOptions)

/-- Providers that agree at the nodes of a source report the same of a reference to a property of
it. -/
theorem propertyViolations_eq {source : Expr} (h : AgreeOn p q source) (kind : PropertyKind)
    (name : String) :
    Expr.propertyViolations p options kind source name =
      Expr.propertyViolations q options kind source name := by
  cases source with
  | entity schema entityName localName =>
    have hentity : p.entity? schema entityName = q.entity? schema entityName :=
      h.hierarchyOwner?_eq
    simp only [Expr.propertyViolations, hentity]
  | _ => rfl

/-- Providers that agree at the nodes of an argument report the same of an aggregation of it. -/
theorem aggregateViolations_eq (h : AgreeOn p q e) (function : AggregateFunction) :
    Expr.aggregateViolations p function e = Expr.aggregateViolations q function e := by
  rw [Expr.aggregateViolations, Expr.aggregateViolations, h.field?_eq, h.supportedAggregates_eq]

/-- Providers that agree at the nodes of two operands report the same of their types. -/
theorem typeViolations_eq {left right : Expr} (hleft : AgreeOn p q left)
    (hright : AgreeOn p q right) :
    Expr.typeViolations p options left right = Expr.typeViolations q options left right := by
  rw [Expr.typeViolations, Expr.typeViolations, hleft.metadata?_eq, hright.metadata?_eq]

/-- Providers that agree at the nodes of all arguments and entries report the same of the rows of a
membership. -/
theorem rowViolations_eq {arguments : List Expr} {rows : List (List Expr)}
    (h : ∀ e ∈ arguments ++ rows.flatten, AgreeOn p q e) :
    Expr.rowViolations p options arguments rows = Expr.rowViolations q options arguments rows := by
  apply List.flatMap_congr
  intro row hrow
  apply List.flatMap_congr
  intro pair hpair
  obtain ⟨hargument, hentry⟩ := List.of_mem_zip hpair
  exact typeViolations_eq options (h _ (List.mem_append_left _ hargument))
    (h _ (List.mem_append_right _ (List.mem_flatten.2 ⟨row, hrow, hentry⟩)))

/-- Providers that agree at the nodes of two operands report the same of a text predicate on
them. -/
theorem textViolations_eq {left right : Expr} (hleft : AgreeOn p q left)
    (hright : AgreeOn p q right) (predicate : TextPredicate) :
    Expr.textViolations p options predicate left right =
      Expr.textViolations q options predicate left right := by
  rw [Expr.textViolations, Expr.textViolations, typeViolations_eq options hleft hright]

/-- They report the same of the root itself. By cases on its kind, one lemma for each kind that is
checked. -/
theorem ownViolations_eq (h : AgreeOn p q e) :
    e.ownViolations p options = e.ownViolations q options := by
  have hchild (child : Expr) (hchild : child ∈ e.children) := h.child hchild
  cases e
  case entity schema name localName =>
    have hschema := h.isNone schema name localName (Expr.self_mem_nodes _)
    have hentity : p.entity? schema name = q.entity? schema name := h.hierarchyOwner?_eq
    simp only [Expr.ownViolations, Expr.entityViolations, hschema, hentity]
  case column source name =>
    exact propertyViolations_eq options (hchild source (.head _)) .column name
  case measure source name =>
    exact propertyViolations_eq options (hchild source (.head _)) .measure name
  case aggregation function argument => exact h.aggregateViolations_eq function
  case compare comparison left right =>
    exact typeViolations_eq options (hchild left (.head _)) (hchild right (.tail _ (.head _)))
  case member arguments rows => exact rowViolations_eq options hchild
  case contains left right =>
    exact textViolations_eq options (hchild left (.head _)) (hchild right (.tail _ (.head _)))
      .contains
  case startsWith left right =>
    exact textViolations_eq options (hchild left (.head _)) (hchild right (.tail _ (.head _)))
      .startsWith
  all_goals rfl

/-- They lead to the same report and keep or change the expression alike. -/
theorem validateFrom_eq (h : AgreeOn p q e) (found : List Violation) :
    e.validateFrom p options found = e.validateFrom q options found := by
  apply Expr.validateFrom_congr
  apply List.flatMap_congr
  intro node hnode
  exact (h.node hnode).ownViolations_eq options

end Reports

end Provider.AgreeOn

/-! ## Setting an entity -/

/-- A property of an entity of the schema declares a variation that leads to the given name. -/
def Schema.HasVariationTo (s : Schema) (target : String) : Prop :=
  ∃ name e property p traits, s.entity? name = some e ∧ e.property? property = some p ∧
    p.traits = some traits ∧ ∃ v ∈ traits.variations, v.target = target

/-- Setting an entity changes no look-up of another name. -/
theorem Schema.entity?_insert_of_ne (s : Schema) (body : Entity) {name other : String}
    (h : other ≠ name) :
    (Schema.mk (s.entities.insert name body)).entity? other = s.entity? other := by
  rw [entity?, Dictionary.find?_insert, if_neg h, entity?]

namespace Catalog

variable (c : Catalog) (schema name : String) (body : Entity)

/-- Setting an entity in a schema leaves every other schema as it was. -/
theorem provider_withEntity_of_ne {other : String} (h : other ≠ schema) :
    (c.withEntity schema name body).provider other = c.provider other := by
  rw [provider, withEntity, Dictionary.find?_insert, if_neg h, provider]

/-- The schema in which an entity is set is known with this entity. -/
theorem provider_withEntity_self {s : Schema} (h : c.schemas.find? schema = some s) :
    (c.withEntity schema name body).provider schema = some ⟨s.entities.insert name body⟩ := by
  rw [provider, withEntity, Dictionary.find?_insert, if_pos rfl, h, Option.getD_some]

variable {c schema name} {s : Schema}

/-- An entity of another name is looked up as before. -/
theorem entity?_withEntity_of_ne (hschema : c.schemas.find? schema = some s)
    {other entityName : String} (h : other = schema → entityName ≠ name) :
    (c.withEntity schema name body).provider.entity? other entityName =
      c.provider.entity? other entityName := by
  by_cases hother : other = schema
  · have hprovider : c.provider schema = some s := hschema
    rw [hother, Provider.entity?, Provider.entity?, provider_withEntity_self c _ _ _ hschema,
      hprovider, Option.bind_some, Option.bind_some, s.entity?_insert_of_ne body (h hother)]
  · rw [Provider.entity?, Provider.entity?, provider_withEntity_of_ne _ _ _ _ hother]

/-- The hierarchies that another entity of the schema gives access to by a variation. The last
look-up of the chain is the only one that the change could touch. -/
theorem hierarchyOwner?_variation_withEntity (hschema : c.schemas.find? schema = some s)
    (huntargeted : ¬ s.HasVariationTo name) {other : String} (hother : other ≠ name)
    (localName : Option String) (variationName property : String) :
    (Expr.variation (.entity schema other localName) variationName property).hierarchyOwner?
        (c.withEntity schema name body).provider =
      (Expr.variation (.entity schema other localName) variationName property).hierarchyOwner?
        c.provider := by
  have hprovider : c.provider schema = some s := hschema
  simp only [Expr.hierarchyOwner?, provider_withEntity_self c schema name body hschema, hprovider,
    Option.bind_eq_bind, Option.bind_some, s.entity?_insert_of_ne body hother]
  apply Option.bind_congr
  intro source hsource
  apply Option.bind_congr
  intro p hp
  apply Option.bind_congr
  intro v hv
  obtain ⟨traits, htraits, hfirst⟩ := (p.variation?_eq_some_iff ..).1 hv
  apply s.entity?_insert_of_ne body
  intro htarget
  exact huntargeted
    ⟨other, source, property, p, traits, hsource, hp, htraits, v, hfirst.mem, htarget⟩

/-- Setting an entity makes no difference to an expression that does not name it, if the schema is
there already and no variation leads to the entity. -/
theorem agreeOn_withEntity (hschema : c.schemas.find? schema = some s)
    (huntargeted : ¬ s.HasVariationTo name) {e : Expr}
    (habsent : ∀ localName, .entity schema name localName ∉ e.nodes) :
    Provider.AgreeOn (c.withEntity schema name body).provider c.provider e := by
  have hname {other entityName : String} {localName : Option String}
      (hentity : .entity other entityName localName ∈ e.nodes) :
      other = schema → entityName ≠ name := by
    rintro rfl rfl
    exact habsent localName hentity
  constructor
  · intro other entityName localName _
    by_cases hother : other = schema
    · have hprovider : c.provider schema = some s := hschema
      rw [hother, provider_withEntity_self c _ _ _ hschema, hprovider]
      rfl
    · rw [provider_withEntity_of_ne _ _ _ _ hother]
  · intro node hnode
    cases node
    case entity other entityName localName =>
      exact entity?_withEntity_of_ne body hschema (hname hnode)
    case variation source variationName property =>
      cases source
      case entity other entityName localName =>
        have hsource : .entity other entityName localName ∈ e.nodes :=
          Expr.mem_nodes_trans (List.mem_append_left _ (Expr.self_mem_nodes _)) hnode
        by_cases hother : other = schema
        · subst hother
          exact hierarchyOwner?_variation_withEntity body hschema huntargeted (hname hsource rfl) ..
        · simp only [Expr.hierarchyOwner?, provider_withEntity_of_ne _ _ _ _ hother]
      all_goals rfl
    all_goals rfl

/-- **An unrelated entity changes nothing.** Let an entity of a schema that is there be set, be it a
new one or in place of another one of its name. For an expression that does not name the entity, in
a schema without variations that lead to it, nothing changes: neither the report of a validation
under any options, nor the field, the description, the aggregates on offer, the default, the keys to
group by or the aggregate that the expression is wrapped in. -/
theorem withEntity_changes_nothing_elsewhere (hschema : c.schemas.find? schema = some s)
    (huntargeted : ¬ s.HasVariationTo name) (e : Expr)
    (habsent : ∀ localName, .entity schema name localName ∉ e.nodes) :
    let p := (c.withEntity schema name body).provider
    (∀ options found,
      e.validateFrom p options found = e.validateFrom c.provider options found) ∧
    e.field? p = e.field? c.provider ∧
    e.metadata? p = e.metadata? c.provider ∧
    e.supportedAggregates p = e.supportedAggregates c.provider ∧
    (∀ force, e.defaultAggregate? p force = e.defaultAggregate? c.provider force) ∧
    e.groupingKeys p = e.groupingKeys c.provider ∧
    ∀ options, e.aggregated p options = e.aggregated c.provider options := by
  intro p
  have h : Provider.AgreeOn p c.provider e := agreeOn_withEntity body hschema huntargeted habsent
  exact ⟨h.validateFrom_eq, h.field?_eq, h.metadata?_eq, h.supportedAggregates_eq,
    h.defaultAggregate?_eq, h.groupingKeys_eq, h.aggregated_eq⟩

/-- The only variation of the catalog of orders leads to the dates. -/
theorem target_of_ordersByDate {s : Schema} (hschema : ordersByDate.schemas.find? "s" = some s)
    {target : String} (h : s.HasVariationTo target) : target = "Dates" := by
  obtain ⟨name, e, property, p, traits, he, hp, htraits, v, hv, rfl⟩ := h
  cases hschema
  have hentity : (name, e) ∈ [("Orders", ordersEntity), ("Dates", datesEntity)] :=
    (Dictionary.find?_eq_some_iff _).1 he
  have hproperty : (property, p) ∈ e.properties.entries := (Dictionary.find?_eq_some_iff _).1 hp
  rcases hentity with _ | ⟨_, _ | ⟨_, hnone⟩⟩
  case head =>
    rcases hproperty with _ | ⟨_, hnone⟩
    case head =>
      cases htraits
      rw [List.mem_singleton.1 hv]
    case tail => cases hnone
  case tail.head =>
    rcases hproperty with _ | ⟨_, _ | ⟨_, hnone⟩⟩
    case head | tail.head =>
      cases htraits
      cases hv
    case tail.tail => cases hnone
  case tail.tail => cases hnone

/-- Customers are unrelated to the year of the date of an order. -/
theorem withEntity_changes_nothing_elsewhere_of_customers :
    (∃ s, ordersByDate.schemas.find? "s" = some s ∧ ¬ s.HasVariationTo "Customers") ∧
    (∀ localName, .entity "s" "Customers" localName ∉ (orderDateLevel "Year").nodes) ∧
    (orderDateLevel "Year").field? (ordersByDate.withEntity "s" "Customers" {}).provider =
      (orderDateLevel "Year").field? ordersByDate.provider := by
  obtain ⟨s, hschema⟩ : ∃ s, ordersByDate.schemas.find? "s" = some s := ⟨_, rfl⟩
  have huntargeted : ¬ s.HasVariationTo "Customers" := by
    intro h
    exact absurd (target_of_ordersByDate hschema h) (by decide)
  have habsent (localName : Option String) :
      .entity "s" "Customers" localName ∉ (orderDateLevel "Year").nodes := by
    simp [orderDateLevel, Expr.nodes]
  exact ⟨⟨s, hschema, huntargeted⟩, habsent,
    (withEntity_changes_nothing_elsewhere {} hschema huntargeted _ habsent).2.1⟩

/-- The dates are not, although the expression does not name them either. -/
example : ((orderDateLevel "Year").field?
    (ordersByDate.withEntity "s" "Dates" {}).provider).isNone = true := rfl

end Catalog

end SemanticQuery
