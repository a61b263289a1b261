import SemanticQuery.Document.CatalogFormat
import SemanticQuery.Proofs.Pairwise
import SemanticQuery.Schema.Field

/-!
# Catalogs without dangling references

A catalog is consistent when every level of a hierarchy shows a property of its own entity and every
variation leads to an entity of its own schema. The check accepts exactly the consistent catalogs.
Consistency speaks about look-ups alone, so the order in which the check meets the entries of the
dictionaries decides at most which dangling reference it names.

The field of a level is found by a chain of look-ups: the schema, the entity, for a variation the
property, the variation and its target, then the hierarchy, the level and the column that it shows.
In a consistent catalog the target and the column are always there, so the chain can break only
where the expression itself names something that does not exist.
-/

set_option autoImplicit false

namespace SemanticQuery

/-! ## Looking up by name -/

namespace Dictionary

variable {α : Type}

/-- What holds of all entries holds of the values of all names. -/
theorem forall_mem_entries_iff (d : Dictionary α) (P : String → α → Prop) :
    (∀ entry ∈ d.entries, P entry.1 entry.2) ↔
      ∀ name value, d.find? name = some value → P name value := by
  simp only [find?_eq_some_iff, Prod.forall]

end Dictionary

/-- The first of several entries that have a given name. -/
def IsFirstNamed {α : Type} (nameOf : α → String) (name : String) (entries : List α) (a : α) :
    Prop :=
  ∃ before after, entries = before ++ a :: after ∧ nameOf a = name ∧
    ∀ other ∈ before, nameOf other ≠ name

/-- A look-up by name finds the first entry of the name. -/
theorem find?_eq_some_iff_isFirstNamed {α : Type} (nameOf : α → String) (name : String)
    (entries : List α) (a : α) :
    (entries.find? fun entry => nameOf entry == name) = some a ↔
      IsFirstNamed nameOf name entries a := by
  rw [List.find?_eq_some_iff_append]
  simp only [IsFirstNamed, beq_iff_eq, Bool.not_eq_true', beq_eq_false_iff_ne]
  constructor
  · rintro ⟨hname, before, after, hentries, hbefore⟩
    exact ⟨before, after, hentries, hname, hbefore⟩
  · rintro ⟨before, after, hentries, hname, hbefore⟩
    exact ⟨hname, before, after, hentries, hbefore⟩

namespace IsFirstNamed

variable {α : Type} {nameOf : α → String} {name : String} {entries : List α} {a : α}

/-- The first entry of a name is one of the entries. -/
theorem mem (h : IsFirstNamed nameOf name entries a) : a ∈ entries := by
  obtain ⟨before, after, rfl, -, -⟩ := h
  exact List.mem_append_right _ (List.mem_cons_self ..)

/-- The first entry of a name has this name. -/
theorem name_eq (h : IsFirstNamed nameOf name entries a) : nameOf a = name := by
  obtain ⟨-, -, -, hname, -⟩ := h
  exact hname

end IsFirstNamed

namespace Entity

/-- There is a hierarchy of the given name, and the first one has a level of the given name. -/
def ShowsLevel (e : Entity) (hierarchyName levelName : String) : Prop :=
  ∃ hierarchy, IsFirstNamed Hierarchy.name hierarchyName e.hierarchies hierarchy ∧
    ∃ level ∈ hierarchy.levels, level.name = levelName

end Entity

namespace Property

/-- A property declares a variation, as the first of its name. -/
def Declares (p : Property) (name : String) (v : Variation) : Prop :=
  ∃ traits, p.traits = some traits ∧ IsFirstNamed Variation.name name traits.variations v

/-- The variation that a property has under a name is the one that it declares. -/
theorem variation?_eq_some_iff (p : Property) (name : String) (v : Variation) :
    p.variation? name = some v ↔ p.Declares name v := by
  simp only [variation?, Declares, Option.bind_eq_some_iff, find?_eq_some_iff_isFirstNamed]

end Property

/-! ## Consistent catalogs -/

namespace Entity

/-- Every level of every hierarchy shows a property of the entity. -/
def ShowsOwnColumns (e : Entity) : Prop :=
  ∀ hierarchy ∈ e.hierarchies, ∀ level ∈ hierarchy.levels,
    (e.property? level.column).isSome = true

end Entity

namespace Schema

/-- Every variation of every property of an entity leads to an entity of the schema. -/
def ReachesTargets (s : Schema) (e : Entity) : Prop :=
  ∀ name p traits, e.property? name = some p → p.traits = some traits →
    ∀ v ∈ traits.variations, (s.entity? v.target).isSome = true

/-- No reference of an entity of the schema dangles. -/
def Consistent (s : Schema) : Prop :=
  ∀ name e, s.entity? name = some e → e.ShowsOwnColumns ∧ s.ReachesTargets e

end Schema

namespace Catalog

/-- No reference of the catalog dangles. -/
def Consistent (c : Catalog) : Prop :=
  ∀ name s, c.schemas.find? name = some s → s.Consistent

/-- No level of an entity dangles exactly if all of them show columns of the entity. -/
theorem danglingLevels_eq_nil_iff (schema name : String) (e : Entity) :
    danglingLevels schema name e = [] ↔ e.ShowsOwnColumns := by
  simp only [danglingLevels, Entity.ShowsOwnColumns, List.flatMap_eq_nil_iff, List.map_eq_nil_iff,
    List.filter_eq_nil_iff, Bool.not_eq_true, Option.isNone_eq_false_iff]

/-- No variation of an entity dangles exactly if all of them reach their targets. -/
theorem danglingVariations_eq_nil_iff (schema : String) (s : Schema) (name : String) (e : Entity) :
    danglingVariations schema s name e = [] ↔ s.ReachesTargets e := by
  have hproperty (p : Property) :
      (∀ v ∈ p.traits.elim [] ColumnTraits.variations, (s.entity? v.target).isSome = true) ↔
        ∀ traits, p.traits = some traits →
          ∀ v ∈ traits.variations, (s.entity? v.target).isSome = true := by
    cases p.traits with
    | none => simp only [Option.elim_none, List.not_mem_nil, reduceCtorEq, false_implies,
        implies_true]
    | some traits => simp only [Option.elim_some, Option.some.injEq, forall_eq']
  have hentries := e.properties.forall_mem_entries_iff fun _ p =>
    ∀ v ∈ p.traits.elim [] ColumnTraits.variations, (s.entity? v.target).isSome = true
  simp only [danglingVariations, List.flatMap_eq_nil_iff, List.map_eq_nil_iff,
    List.filter_eq_nil_iff, Bool.not_eq_true, Option.isNone_eq_false_iff]
  rw [hentries]
  simp only [hproperty]
  exact ⟨fun h name p traits hp => h name p hp traits, fun h name p hp traits => h name p traits hp⟩

/-- The search for dangling references finds none exactly if the catalog is consistent. -/
theorem danglingReferences_eq_nil_iff (c : Catalog) :
    c.danglingReferences = [] ↔ c.Consistent := by
  have hschemas := c.schemas.forall_mem_entries_iff fun _ s => s.Consistent
  have hentities (s : Schema) := s.entities.forall_mem_entries_iff fun _ e =>
    e.ShowsOwnColumns ∧ s.ReachesTargets e
  simp only [danglingReferences, List.flatMap_eq_nil_iff, List.append_eq_nil_iff,
    danglingLevels_eq_nil_iff, danglingVariations_eq_nil_iff]
  simp only [hentities]
  exact hschemas

/-- The check accepts exactly the consistent catalogs. -/
theorem check_eq_ok_iff (c : Catalog) : c.check = .ok () ↔ c.Consistent := by
  rw [← danglingReferences_eq_nil_iff, check]
  cases c.danglingReferences with
  | nil => exact iff_of_true rfl rfl
  | cons reference rest => exact iff_of_false nofun nofun

end Catalog

/-! ## The order of the entries -/

namespace Entity

/-- The same hierarchies and, in whatever order, the same properties. -/
def SameUpToOrder (e e' : Entity) : Prop :=
  e.hierarchies = e'.hierarchies ∧ ∀ name, e.property? name = e'.property? name

/-- Whether levels show columns of their entity does not depend on the order of its properties. -/
theorem SameUpToOrder.showsOwnColumns_iff {e e' : Entity} (h : e.SameUpToOrder e') :
    e.ShowsOwnColumns ↔ e'.ShowsOwnColumns := by
  simp only [ShowsOwnColumns, h.1, h.2]

end Entity

namespace Schema

/-- The same entities in whatever order. -/
def SameUpToOrder (s s' : Schema) : Prop :=
  ∀ name, Option.Rel Entity.SameUpToOrder (s.entity? name) (s'.entity? name)

/-- Whether a schema is consistent does not depend on the order of its entries. -/
theorem SameUpToOrder.consistent_iff {s s' : Schema} (h : s.SameUpToOrder s') :
    s.Consistent ↔ s'.Consistent := by
  have htarget (name : String) : (s.entity? name).isSome = (s'.entity? name).isSome :=
    optionRel_isSome_eq (h name)
  have hentity (e e' : Entity) (hsame : e.SameUpToOrder e') :
      e.ShowsOwnColumns ∧ s.ReachesTargets e ↔ e'.ShowsOwnColumns ∧ s'.ReachesTargets e' := by
    rw [hsame.showsOwnColumns_iff]
    simp only [ReachesTargets, htarget, hsame.2]
  exact forall_congr' fun name => optionRel_forall_iff (h name) hentity

end Schema

namespace Catalog

/-- The same schemas in whatever order. -/
def SameUpToOrder (c c' : Catalog) : Prop :=
  ∀ name, Option.Rel Schema.SameUpToOrder (c.schemas.find? name) (c'.schemas.find? name)

/-- Whether a catalog is consistent does not depend on the order of its entries. -/
theorem SameUpToOrder.consistent_iff {c c' : Catalog} (h : c.SameUpToOrder c') :
    c.Consistent ↔ c'.Consistent :=
  forall_congr' fun name => optionRel_forall_iff (h name) fun _ _ hsame => hsame.consistent_iff

/-! ## Loading -/

/-- A catalog that comes out of the check passes it. -/
theorem check_of_checked {c c' : Catalog} (h : c.checked = .ok c') : c'.check = .ok () := by
  unfold checked at h
  cases hcheck : c.check with
  | ok =>
    rw [hcheck] at h
    cases h
    exact hcheck
  | error reference =>
    rw [hcheck] at h
    cases h

/-- A catalog that is read from JSON passes the check. -/
theorem check_of_ofJson {text : String} {c : Catalog} (h : ofJson text = .ok c) :
    c.check = .ok () := by
  unfold ofJson at h
  split at h
  · exact check_of_checked h
  · cases h

/-- A catalog that is read from TOML passes the check. -/
theorem check_of_ofToml {text : String} {c : Catalog} (h : ofToml text = .ok c) :
    c.check = .ok () := by
  unfold ofToml at h
  split at h
  · exact check_of_checked h
  · cases h

end Catalog

/-! ## The field of a level -/

namespace Expr

/-- The entity that a variation of a column leads to. -/
theorem hierarchyOwner?_variation_eq_some_iff (provider : Provider) (schema name : String)
    (localName : Option String) (variationName property : String) (owner : Entity) :
    (variation (.entity schema name localName) variationName property).hierarchyOwner? provider =
        some owner ↔
      ∃ s source p v, provider schema = some s ∧ s.entity? name = some source ∧
        source.property? property = some p ∧ p.Declares variationName v ∧
        s.entity? v.target = some owner := by
  simp only [hierarchyOwner?, Option.bind_eq_bind, Option.bind_eq_some_iff,
    Property.variation?_eq_some_iff, exists_and_left]

/-- In a consistent catalog the levels of every entity show columns that are there. -/
theorem showsOwnColumns_of_hierarchyOwner? {c : Catalog} (hc : c.Consistent) {source : Expr}
    {owner : Entity} (h : source.hierarchyOwner? c.provider = some owner) :
    owner.ShowsOwnColumns := by
  unfold hierarchyOwner? at h
  split at h
  case h_1 schema name _ =>
    obtain ⟨s, hs, howner⟩ := Option.bind_eq_some_iff.1 h
    exact (hc schema s hs name owner howner).1
  case h_2 =>
    simp only [Option.bind_eq_bind, Option.bind_eq_some_iff] at h
    obtain ⟨s, hs, _, _, _, _, v, _, howner⟩ := h
    exact (hc _ s hs v.target owner howner).1
  case h_3 => cases h

/-- In a consistent catalog a level has a field as soon as there is an owner of the hierarchy that
has the hierarchy and the level: the column that is shown cannot be missing. -/
theorem isSome_field?_level_iff {c : Catalog} (hc : c.Consistent) (source : Expr)
    (hierarchyName levelName : String) :
    ((level (.hierarchy source hierarchyName) levelName).field? c.provider).isSome = true ↔
      ∃ owner, source.hierarchyOwner? c.provider = some owner ∧
        owner.ShowsLevel hierarchyName levelName := by
  simp only [Option.isSome_iff_exists, field?, Option.bind_eq_bind, Option.bind_eq_some_iff]
  constructor
  · rintro ⟨field, owner, howner, hierarchy, hhierarchy, shown, hshown, -⟩
    have hfirst := (find?_eq_some_iff_isFirstNamed HierarchyLevel.name ..).1 hshown
    exact ⟨owner, howner, hierarchy, (find?_eq_some_iff_isFirstNamed ..).1 hhierarchy, shown,
      hfirst.mem, hfirst.name_eq⟩
  · rintro ⟨owner, howner, hierarchy, hfirst, level, hlevel, hname⟩
    have hhierarchy := (find?_eq_some_iff_isFirstNamed ..).2 hfirst
    have hfound : (hierarchy.level? levelName).isSome = true :=
      List.find?_isSome.2 ⟨level, hlevel, beq_iff_eq.2 hname⟩
    obtain ⟨shown, hshown⟩ := Option.isSome_iff_exists.1 hfound
    have hcolumn := showsOwnColumns_of_hierarchyOwner? hc howner hierarchy hfirst.mem shown
      (List.mem_of_find?_eq_some hshown)
    obtain ⟨p, hp⟩ := Option.isSome_iff_exists.1 hcolumn
    refine ⟨⟨owner, shown.column, p⟩, owner, howner, hierarchy, hhierarchy, shown, hshown, ?_⟩
    rw [Entity.field?, hp, Option.map_some]

/-- Over a variation the owner is the target, which in a consistent catalog cannot be missing
either. -/
theorem isSome_field?_variation_level_iff {c : Catalog} (hc : c.Consistent) (schema name : String)
    (localName : Option String) (variationName property hierarchyName levelName : String) :
    ((level (.hierarchy (.variation (.entity schema name localName) variationName property)
        hierarchyName) levelName).field? c.provider).isSome = true ↔
      ∃ s source p v, c.schemas.find? schema = some s ∧ s.entity? name = some source ∧
        source.property? property = some p ∧ p.Declares variationName v ∧
        ∀ owner, s.entity? v.target = some owner → owner.ShowsLevel hierarchyName levelName := by
  rw [isSome_field?_level_iff hc]
  simp only [hierarchyOwner?_variation_eq_some_iff]
  constructor
  · rintro ⟨owner, ⟨s, source, p, v, hs, hsource, hp, hv, howner⟩, hshows⟩
    refine ⟨s, source, p, v, hs, hsource, hp, hv, fun other hother => ?_⟩
    cases howner.symm.trans hother
    exact hshows
  · rintro ⟨s, source, p, v, hs, hsource, hp, hv, hshows⟩
    obtain ⟨traits, htraits, hfirst⟩ := hv
    have htarget := (hc schema s hs name source hsource).2 property p traits hp htraits v hfirst.mem
    obtain ⟨owner, howner⟩ := Option.isSome_iff_exists.1 htarget
    exact ⟨owner, ⟨s, source, p, v, hs, hsource, hp, ⟨traits, htraits, hfirst⟩, howner⟩,
      hshows owner howner⟩

end Expr

/-! ## The guarantee -/

namespace Catalog

open SemanticQuery.Expr

/-- **The check rules out the dangling references that fields rely on.** It accepts exactly the
consistent catalogs, in whatever order their entries stand, and every catalog that is read from a
document has passed it. In a catalog that has passed it, a level of a hierarchy of an entity has a
field exactly when the entity exists and its first hierarchy of that name has the level. Over a
variation the level has a field exactly when the entity and the property exist, the property
declares the variation, and the first hierarchy of that name of the target has the level. Nothing is
asked of the target of the variation or of the column of the level. -/
theorem check_rules_out_dangling_references (c : Catalog) :
    (c.check = .ok () ↔ c.Consistent) ∧
    (∀ c', c.SameUpToOrder c' → (c.check = .ok () ↔ c'.check = .ok ())) ∧
    (∀ text, ofJson text = .ok c ∨ ofToml text = .ok c → c.check = .ok ()) ∧
    (c.check = .ok () → ∀ schema name localName hierarchyName levelName,
      ((level (.hierarchy (.entity schema name localName) hierarchyName) levelName).field?
          c.provider).isSome = true ↔
        ∃ s owner, c.schemas.find? schema = some s ∧ s.entity? name = some owner ∧
          owner.ShowsLevel hierarchyName levelName) ∧
    (c.check = .ok () → ∀ schema name localName variationName property hierarchyName levelName,
      ((level (.hierarchy (.variation (.entity schema name localName) variationName property)
          hierarchyName) levelName).field? c.provider).isSome = true ↔
        ∃ s source p v, c.schemas.find? schema = some s ∧ s.entity? name = some source ∧
          source.property? property = some p ∧ p.Declares variationName v ∧
          ∀ owner, s.entity? v.target = some owner →
            owner.ShowsLevel hierarchyName levelName) := by
  refine ⟨check_eq_ok_iff c, fun c' hsame => ?_, fun text hloaded => ?_, fun hcheck => ?_,
    fun hcheck => ?_⟩
  · rw [check_eq_ok_iff, check_eq_ok_iff, hsame.consistent_iff]
  · exact hloaded.elim check_of_ofJson check_of_ofToml
  · intro schema name localName hierarchyName levelName
    rw [isSome_field?_level_iff ((check_eq_ok_iff c).1 hcheck)]
    simp only [hierarchyOwner?, Provider.entity?, Option.bind_eq_some_iff]
    constructor
    · rintro ⟨owner, ⟨s, hs, howner⟩, hshows⟩
      exact ⟨s, owner, hs, howner, hshows⟩
    · rintro ⟨s, owner, hs, howner, hshows⟩
      exact ⟨owner, ⟨s, hs, howner⟩, hshows⟩
  · intro schema name localName variationName property hierarchyName levelName
    exact isSome_field?_variation_level_iff ((check_eq_ok_iff c).1 hcheck) ..

/-- Dates with two hierarchies of the same name. -/
def datesEntity : Entity where
  properties := (Dictionary.empty.insert "Year" (.column .integer)).insert "Month" (.column .text)
  hierarchies := [⟨"Calendar", [⟨"Year", "Year"⟩]⟩, ⟨"Calendar", [⟨"Month", "Month"⟩]⟩]

/-- Orders with a date that varies by the dates. -/
def ordersEntity : Entity where
  properties := Dictionary.empty.insert "Date"
    { kind := .column, type := .dateTime, traits := some { variations := [⟨"ByDate", "Dates"⟩] } }

/-- The catalog of orders and dates. -/
def ordersByDate : Catalog :=
  (Catalog.withEntity {} "s" "Orders" ordersEntity).withEntity "s" "Dates" datesEntity

/-- A level of the calendar that the date of an order leads to. -/
def orderDateLevel (levelName : String) : Expr :=
  .level (.hierarchy (.variation (.entity "s" "Orders" none) "ByDate" "Date") "Calendar") levelName

/-- The first calendar counts, for the dates as for the dates of the orders: the year has a field,
the month of the second calendar has none. -/
theorem check_rules_out_dangling_references_of_ordersByDate :
    ordersByDate.check = .ok () ∧
    ((level (.hierarchy (.entity "s" "Dates" none) "Calendar") "Year").field?
      ordersByDate.provider).isSome = true ∧
    ((orderDateLevel "Year").field? ordersByDate.provider).isSome = true ∧
    ¬ ((orderDateLevel "Month").field? ordersByDate.provider).isSome = true := by
  have hcheck : ordersByDate.check = .ok () := by rfl
  have hyear : datesEntity.ShowsLevel "Calendar" "Year" :=
    ⟨_, ⟨[], _, rfl, rfl, List.forall_mem_nil _⟩, ⟨"Year", "Year"⟩, .head _, rfl⟩
  have hdates := (check_rules_out_dangling_references ordersByDate).2.2.2.1 hcheck
  have hlevels := (check_rules_out_dangling_references ordersByDate).2.2.2.2 hcheck
  refine ⟨hcheck, ?_, ?_, ?_⟩
  · exact (hdates ..).2 ⟨_, datesEntity, rfl, rfl, hyear⟩
  · refine (hlevels ..).2 ⟨_, ordersEntity, _, ⟨"ByDate", "Dates"⟩, rfl, rfl, rfl, ?_, ?_⟩
    · exact ⟨_, rfl, [], [], rfl, rfl, List.forall_mem_nil _⟩
    · rintro owner ⟨⟩
      exact hyear
  · unfold orderDateLevel
    rw [hlevels]
    rintro ⟨s, source, p, v, ⟨⟩, ⟨⟩, ⟨⟩, ⟨traits, ⟨⟩, hfirst⟩, hshows⟩
    obtain rfl := List.mem_singleton.1 hfirst.mem
    obtain ⟨hierarchy, hcalendar, level, hlevel, hname⟩ := hshows datesEntity rfl
    have hfound := (find?_eq_some_iff_isFirstNamed Hierarchy.name ..).2 hcalendar
    cases hfound
    obtain rfl := List.mem_singleton.1 hlevel
    exact absurd hname (by decide)

end Catalog

end SemanticQuery
