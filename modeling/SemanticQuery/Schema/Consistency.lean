import SemanticQuery.Schema.Basic

/-!
# Consistency of catalogs

The references inside a catalog are by name. A catalog is consistent when no name dangles: every
level of a hierarchy shows a property of its own entity, and every variation leads to an entity of
its own schema. `check` finds the first reference that dangles.
-/

set_option autoImplicit false

namespace SemanticQuery

/-- A reference inside a catalog that leads nowhere. -/
inductive DanglingReference where
  /-- A level shows a column that its entity does not have. -/
  | level (schema entity hierarchy level column : String)
  /-- A variation leads to an entity that its schema does not have. -/
  | variation (schema entity property variation target : String)
deriving DecidableEq

namespace DanglingReference

/-- The text that describes a dangling reference. -/
def message : DanglingReference → String
  | level schema entity hierarchy levelName column =>
      "level '" ++ levelName ++ "' of hierarchy '" ++ hierarchy ++ "' on " ++ schema ++ "." ++
        entity ++ " references unknown column '" ++ column ++ "'"
  | variation schema entity property variationName target =>
      "variation '" ++ variationName ++ "' of " ++ schema ++ "." ++ entity ++ "." ++ property ++
        " targets unknown entity '" ++ target ++ "'"

end DanglingReference

namespace Catalog

/-- The levels of an entity that show no property of it. -/
def danglingLevels (schema name : String) (entity : Entity) : List DanglingReference :=
  entity.hierarchies.flatMap fun hierarchy =>
    (hierarchy.levels.filter fun level => (entity.property? level.column).isNone).map fun level =>
      .level schema name hierarchy.name level.name level.column

/-- The variations of an entity that lead to no entity of the schema. -/
def danglingVariations (schema : String) (s : Schema) (name : String) (entity : Entity) :
    List DanglingReference :=
  entity.properties.entries.flatMap fun property =>
    ((property.2.traits.elim [] ColumnTraits.variations).filter fun variation =>
        (s.entity? variation.target).isNone).map fun variation =>
      .variation schema name property.1 variation.name variation.target

/-- All dangling references of a catalog; of an entity those of its levels come first. -/
def danglingReferences (c : Catalog) : List DanglingReference :=
  c.schemas.entries.flatMap fun schema =>
    schema.2.entities.entries.flatMap fun entity =>
      danglingLevels schema.1 entity.1 entity.2 ++
        danglingVariations schema.1 schema.2 entity.1 entity.2

/-- Accepts a catalog without dangling references, and names the first one otherwise. -/
def check (c : Catalog) : Except DanglingReference Unit :=
  match c.danglingReferences with
  | [] => .ok ()
  | reference :: _ => .error reference

end Catalog

end SemanticQuery
