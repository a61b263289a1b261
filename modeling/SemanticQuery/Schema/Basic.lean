import SemanticQuery.AggregateFunction
import SemanticQuery.Datum.ValueType
import SemanticQuery.Dictionary

/-!
# Conceptual schemas

A catalog holds schemas by name, a schema entities, an entity properties and hierarchies. A property
is a stored column or a computed measure. Columns may declare a default aggregate, the aggregates
that are allowed, key columns for grouping, and variations that lead to the hierarchies of another
entity of the schema.

The rest of the library only looks schemas up by name, so it takes a provider: any function from
names to schemas. A catalog gives rise to one.
-/

set_option autoImplicit false

namespace SemanticQuery

/-- The kinds of properties: stored columns and computed measures. -/
inductive PropertyKind where
  | column
  | measure
deriving DecidableEq

/-- Whether a property can be queried or is present but in error. -/
inductive Queryability where
  | queryable
  | error
deriving DecidableEq

/-- The aggregate that a column declares as its default. `unspecified` leaves the choice to the type
of the column, `suppressed` asks for none. -/
inductive DeclaredAggregate where
  | unspecified
  | suppressed
  | sum
  | count
  | min
  | max
  | average
  | distinctCount
deriving DecidableEq

namespace DeclaredAggregate

/-- The aggregate function that a declaration names. Counting counts the values that are present,
distinct counting is the plain count of a query. -/
def function? : DeclaredAggregate → Option AggregateFunction
  | unspecified => none
  | suppressed => none
  | sum => some .sum
  | count => some .countNonNull
  | min => some .min
  | max => some .max
  | average => some .avg
  | distinctCount => some .count

end DeclaredAggregate

/-- A named way from a column to the hierarchies of another entity of the same schema. -/
structure Variation where
  name : String
  target : String
deriving DecidableEq

/-- What a schema says about a column beyond its type. -/
structure ColumnTraits where
  defaultAggregate : DeclaredAggregate := .unspecified
  /-- The aggregates that are allowed; they follow from the type when not given. -/
  aggregates : Option (List AggregateFunction) := none
  /-- The columns to group by in place of this one. -/
  keys : List String := []
  /-- Membership in the key of the entity. -/
  inEntityKey : Bool := false
  variations : List Variation := []
deriving DecidableEq

/-- A property of an entity. -/
structure Property where
  kind : PropertyKind
  type : ValueType
  format : Option String := none
  queryable : Queryability := .queryable
  traits : Option ColumnTraits := none
deriving DecidableEq

namespace Property

/-- A plain column. -/
def column (type : ValueType) : Property :=
  { kind := .column, type := type, traits := some {} }

/-- A plain measure. -/
def measure (type : ValueType) : Property :=
  { kind := .measure, type := type }

/-- Changes the traits of a property, starting from the plain ones when it has none. -/
def updateTraits (change : ColumnTraits → ColumnTraits) (p : Property) : Property :=
  { p with traits := some (change (p.traits.getD {})) }

/-- Tells whether a property can be queried. -/
def isQueryable (p : Property) : Bool :=
  p.queryable == .queryable

/-- The first variation of a given name. -/
def variation? (p : Property) (name : String) : Option Variation :=
  p.traits.bind fun traits => traits.variations.find? fun v => v.name == name

end Property

/-- A level of a hierarchy with the column of the entity that it shows. -/
structure HierarchyLevel where
  name : String
  column : String
deriving DecidableEq

/-- A way down the columns of an entity, from the coarsest level to the finest. -/
structure Hierarchy where
  name : String
  levels : List HierarchyLevel := []
deriving DecidableEq

namespace Hierarchy

/-- The first level of a given name. -/
def level? (h : Hierarchy) (name : String) : Option HierarchyLevel :=
  h.levels.find? fun level => level.name == name

end Hierarchy

/-- An entity with its properties by name and its hierarchies. -/
structure Entity where
  properties : Dictionary Property := {}
  hierarchies : List Hierarchy := []

namespace Entity

/-- The property of a given name. -/
def property? (e : Entity) (name : String) : Option Property :=
  e.properties.find? name

/-- The first hierarchy of a given name. -/
def hierarchy? (e : Entity) (name : String) : Option Hierarchy :=
  e.hierarchies.find? fun hierarchy => hierarchy.name == name

/-- Sets a property. -/
def withProperty (e : Entity) (name : String) (property : Property) : Entity :=
  { e with properties := e.properties.insert name property }

/-- Adds a hierarchy after the others. -/
def withHierarchy (e : Entity) (hierarchy : Hierarchy) : Entity :=
  { e with hierarchies := e.hierarchies ++ [hierarchy] }

end Entity

/-- A schema: entities by name. -/
structure Schema where
  entities : Dictionary Entity := {}

namespace Schema

/-- The entity of a given name. -/
def entity? (s : Schema) (name : String) : Option Entity :=
  s.entities.find? name

end Schema

/-- A catalog: schemas by name. -/
structure Catalog where
  schemas : Dictionary Schema := {}

/-- Read access to schemas by name. -/
abbrev Provider := String → Option Schema

namespace Catalog

/-- The provider that looks schemas up in a catalog. -/
def provider (c : Catalog) : Provider :=
  fun name => c.schemas.find? name

/-- Sets an entity of a schema; the schema is created when it is missing. -/
def withEntity (c : Catalog) (schema name : String) (entity : Entity) : Catalog :=
  let current := (c.schemas.find? schema).getD {}
  ⟨c.schemas.insert schema ⟨current.entities.insert name entity⟩⟩

end Catalog

namespace Provider

/-- The entity of a given schema and name. -/
def entity? (p : Provider) (schema name : String) : Option Entity :=
  (p schema).bind fun s => s.entity? name

end Provider

end SemanticQuery
