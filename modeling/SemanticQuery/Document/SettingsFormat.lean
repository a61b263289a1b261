import SemanticQuery.Document.File
import SemanticQuery.Document.Toml.Read
import SemanticQuery.Settings

/-!
# Documents of settings

The settings as TOML documents spell them, and loading them from a file. Whatever is left out keeps
its default.
-/

set_option autoImplicit false

namespace SemanticQuery

open Document.Toml (dialect)

namespace ValidationOptions

/-- Decodes the switches of validation. -/
def decode? (document : Document) : Option ValidationOptions := do
  let fields ← document.record? dialect ["reject_unqueryable", "check_value_types"]
  let rejectUnqueryable ← fields.optional "reject_unqueryable" true Document.boolean?
  let checkValueTypes ← fields.optional "check_value_types" true Document.boolean?
  return ⟨rejectUnqueryable, checkValueTypes⟩

end ValidationOptions

namespace AggregationOptions

/-- Decodes the switches of aggregate selection. -/
def decode? (document : Document) : Option AggregationOptions := do
  let fields ← document.record? dialect ["aggregate_non_numeric_fields", "preferred"]
  let aggregateNonNumericFields ←
    fields.optional "aggregate_non_numeric_fields" false Document.boolean?
  let preferred ← fields.optional "preferred" none
    (Document.nullable? (Document.choice? dialect AggregateFunction.ofName?))
  return ⟨aggregateNonNumericFields, preferred⟩

end AggregationOptions

namespace Settings

/-- Decodes settings. -/
def decode? (document : Document) : Option Settings := do
  let fields ← document.record? dialect ["validation", "aggregation"]
  let validation ← fields.optional "validation" {} ValidationOptions.decode?
  let aggregation ← fields.optional "aggregation" {} AggregationOptions.decode?
  return ⟨validation, aggregation⟩

/-- Reads settings from a TOML text. -/
def ofToml (text : String) : Except LoadError Settings :=
  match (Document.Toml.read? text).bind decode? with
  | some settings => .ok settings
  | none => .error .malformedToml

/-- Reads settings from a file. -/
def load (file : File) : Except LoadError Settings := do
  ofToml (← file.read)

/-- Reads settings from a file if there is one, and takes the defaults otherwise. -/
def loadOrDefault : Option File → Except LoadError Settings
  | none => .ok {}
  | some file => if file.content.isNone then .ok {} else load file

end Settings

end SemanticQuery
