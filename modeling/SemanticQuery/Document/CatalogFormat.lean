import SemanticQuery.Document.File
import SemanticQuery.Document.Json
import SemanticQuery.Document.Toml.Read

/-!
# Documents of schemas

The records of a catalog as documents spell them, the two formats they come in, and loading from a
file. A loaded catalog has no dangling references.
-/

set_option autoImplicit false

namespace SemanticQuery

open Document (Dialect)

namespace PropertyKind

/-- The kind of a given name. -/
def ofName? (name : String) : Option PropertyKind :=
  if name = "column" then some column
  else if name = "measure" then some measure
  else none

end PropertyKind

namespace Queryability

/-- The state of a given name. -/
def ofName? (name : String) : Option Queryability :=
  if name = "queryable" then some queryable
  else if name = "error" then some error
  else none

end Queryability

namespace DeclaredAggregate

/-- The declaration of a given name. -/
def ofName? (name : String) : Option DeclaredAggregate :=
  if name = "default" then some unspecified
  else if name = "none" then some suppressed
  else if name = "sum" then some sum
  else if name = "count" then some count
  else if name = "min" then some min
  else if name = "max" then some max
  else if name = "average" then some average
  else if name = "distinctCount" then some distinctCount
  else none

end DeclaredAggregate

namespace Variation

/-- Decodes a variation. -/
def decode? (dialect : Dialect) (document : Document) : Option Variation := do
  let fields ← document.record? dialect ["name", "target_entity"]
  let name ← fields.required "name" Document.text?
  let target ← fields.required "target_entity" Document.text?
  return ⟨name, target⟩

end Variation

namespace ColumnTraits

/-- Decodes the traits of a column; every field may be left out. -/
def decode? (dialect : Dialect) (document : Document) : Option ColumnTraits := do
  let fields ← document.record? dialect
    ["default_aggregate", "aggregates", "keys", "id_on_entity_key", "variations"]
  let defaultAggregate ← fields.optional "default_aggregate" .unspecified
    (Document.choice? dialect DeclaredAggregate.ofName?)
  let aggregates ← fields.optional "aggregates" none
    (Document.nullable? (Document.list? (Document.choice? dialect AggregateFunction.ofName?)))
  let keys ← fields.optional "keys" [] (Document.list? Document.text?)
  let inEntityKey ← fields.optional "id_on_entity_key" false Document.boolean?
  let variations ← fields.optional "variations" [] (Document.list? (Variation.decode? dialect))
  return ⟨defaultAggregate, aggregates, keys, inEntityKey, variations⟩

end ColumnTraits

namespace Property

/-- Decodes a property; its kind and its type have to be given. -/
def decode? (dialect : Dialect) (document : Document) : Option Property := do
  let fields ← document.record? dialect ["kind", "type", "format", "queryable", "column"]
  let kind ← fields.required "kind" (Document.choice? dialect PropertyKind.ofName?)
  let type ← fields.required "type" (Document.choice? dialect ValueType.ofName?)
  let format ← fields.optional "format" none (Document.nullable? Document.text?)
  let state ← fields.optional "queryable" .queryable
    (Document.choice? dialect Queryability.ofName?)
  let traits ← fields.optional "column" none
    (Document.nullable? (ColumnTraits.decode? dialect))
  return ⟨kind, type, format, state, traits⟩

end Property

namespace HierarchyLevel

/-- Decodes a level of a hierarchy. -/
def decode? (dialect : Dialect) (document : Document) : Option HierarchyLevel := do
  let fields ← document.record? dialect ["name", "column"]
  let name ← fields.required "name" Document.text?
  let column ← fields.required "column" Document.text?
  return ⟨name, column⟩

end HierarchyLevel

namespace Hierarchy

/-- Decodes a hierarchy. -/
def decode? (dialect : Dialect) (document : Document) : Option Hierarchy := do
  let fields ← document.record? dialect ["name", "levels"]
  let name ← fields.required "name" Document.text?
  let levels ← fields.optional "levels" [] (Document.list? (HierarchyLevel.decode? dialect))
  return ⟨name, levels⟩

end Hierarchy

namespace Entity

/-- Decodes an entity. -/
def decode? (dialect : Dialect) (document : Document) : Option Entity := do
  let fields ← document.record? dialect ["properties", "hierarchies"]
  let properties ← fields.optional "properties" .empty
    (Document.dictionary? (Property.decode? dialect))
  let hierarchies ← fields.optional "hierarchies" [] (Document.list? (Hierarchy.decode? dialect))
  return ⟨properties, hierarchies⟩

end Entity

namespace Schema

/-- Decodes a schema. -/
def decode? (dialect : Dialect) (document : Document) : Option Schema := do
  let fields ← document.record? dialect ["entities"]
  let entities ← fields.optional "entities" .empty
    (Document.dictionary? (Entity.decode? dialect))
  return ⟨entities⟩

end Schema

namespace Catalog

/-- Decodes a catalog. -/
def decode? (dialect : Dialect) (document : Document) : Option Catalog := do
  let fields ← document.record? dialect ["schemas"]
  let schemas ← fields.optional "schemas" .empty (Document.dictionary? (Schema.decode? dialect))
  return ⟨schemas⟩

/-- Accepts a catalog without dangling references. -/
def checked (c : Catalog) : Except LoadError Catalog :=
  match c.check with
  | .ok () => .ok c
  | .error reference => .error (.invalidSchema reference)

/-- Reads a catalog from a JSON text. -/
def ofJson (text : String) : Except LoadError Catalog :=
  match (Document.Json.read? text).bind (decode? Document.Json.dialect) with
  | some c => c.checked
  | none => .error .malformedJson

/-- Reads a catalog from a TOML text. -/
def ofToml (text : String) : Except LoadError Catalog :=
  match (Document.Toml.read? text).bind (decode? Document.Toml.dialect) with
  | some c => c.checked
  | none => .error .malformedToml

/-- Reads a catalog from a file in the format that its name stands for. -/
def load (file : File) : Except LoadError Catalog := do
  let text ← file.read
  if file.isJson then ofJson text else ofToml text

end Catalog

end SemanticQuery
