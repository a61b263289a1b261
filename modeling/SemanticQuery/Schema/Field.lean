import SemanticQuery.Expr.Basic
import SemanticQuery.Schema.Basic

/-!
# The field behind an expression

A field is a property of an entity that an expression refers to: by a column or a measure of an
entity, by a level of a hierarchy of an entity or of a variation, or by an aggregation of one of
these. From the field follow the description of the expression's values and the columns to group
by.
-/

set_option autoImplicit false

namespace SemanticQuery

/-- A property together with its name and its entity. -/
structure Field where
  entity : Entity
  name : String
  property : Property

namespace Entity

/-- The field of a given name. -/
def field? (e : Entity) (name : String) : Option Field :=
  (e.property? name).map fun property => ⟨e, name, property⟩

end Entity

namespace Expr

/-- The entity that an expression names. -/
def namedEntity? (provider : Provider) : Expr → Option Entity
  | entity schema name _ => provider.entity? schema name
  | _ => none

/-- The entity whose hierarchies an expression gives access to: the entity it names, or the target
of the variation it names. -/
def hierarchyOwner? (provider : Provider) : Expr → Option Entity
  | entity schema name _ => provider.entity? schema name
  | variation (entity schema name _) variationName property => do
      let s ← provider schema
      let source ← s.entity? name
      let declaring ← source.property? property
      let found ← declaring.variation? variationName
      s.entity? found.target
  | _ => none

/-- The field that an expression refers to. -/
def field? (provider : Provider) : Expr → Option Field
  | column source name => (source.namedEntity? provider).bind fun e => e.field? name
  | measure source name => (source.namedEntity? provider).bind fun e => e.field? name
  | level (hierarchy source hierarchyName) levelName => do
      let owner ← source.hierarchyOwner? provider
      let found ← owner.hierarchy? hierarchyName
      let shown ← found.level? levelName
      owner.field? shown.column
  | aggregation _ argument => field? provider argument
  | _ => none

/-- Tells whether an expression is a measure. -/
def isMeasure : Expr → Bool
  | measure _ _ => true
  | _ => false

/-- Tells whether an expression is a column or a level of a hierarchy. -/
def isColumn : Expr → Bool
  | column _ _ => true
  | level _ _ => true
  | _ => false

end Expr

/-- What a schema tells about the values of an expression. -/
structure Metadata where
  kind : PropertyKind
  type : ValueType
  format : Option String
  inEntityKey : Bool
  /-- The outermost aggregation of the expression. -/
  aggregate : Option AggregateFunction
  /-- The default that the column declares. -/
  defaultAggregate : Option DeclaredAggregate
deriving DecidableEq

namespace Metadata

/-- The description of the values of a constant of a given type. -/
def ofType (type : ValueType) : Metadata :=
  ⟨.column, type, none, false, none, none⟩

/-- The description of the values of a property. -/
def ofProperty (p : Property) : Metadata :=
  ⟨p.kind, p.type, p.format, p.traits.elim false ColumnTraits.inEntityKey, none,
    p.traits.map ColumnTraits.defaultAggregate⟩

/-- The type that a function gives to aggregated values: counts are integers, averages and the like
of numbers are doubles, and everything else keeps its type. -/
def aggregatedType (function : AggregateFunction) (type : ValueType) : ValueType :=
  match function with
  | .count | .countNonNull => .integer
  | .avg | .median | .standardDeviation | .variance => if type.isNumeric then .double else type
  | .sum | .min | .max => type

/-- The description of aggregated values. -/
def aggregated (function : AggregateFunction) (m : Metadata) : Metadata :=
  { m with type := aggregatedType function m.type, aggregate := some function }

end Metadata

namespace Expr

/-- The description of the values of an expression: a constant, a field, or an aggregation of
something that has a description. -/
def metadata? (provider : Provider) : Expr → Option Metadata
  | constant value => some (Metadata.ofType value.type)
  | aggregation function argument =>
      (metadata? provider argument).map (Metadata.aggregated function)
  | e => (e.field? provider).map fun field => Metadata.ofProperty field.property

/-- The key columns of a column that declares some, over the same source. -/
def keyColumns? (provider : Provider) : Expr → Option (List Expr)
  | column source name =>
      match ((column source name).field? provider).bind fun field => field.property.traits with
      | some traits =>
          if traits.keys.isEmpty then none else some (traits.keys.map fun key => column source key)
      | none => none
  | _ => none

/-- The expressions to group by: the key columns of a column that declares some, and otherwise the
expression itself. -/
def groupingKeys (provider : Provider) (e : Expr) : List Expr :=
  (e.keyColumns? provider).getD [e]

end Expr

end SemanticQuery
