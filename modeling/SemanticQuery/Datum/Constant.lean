import SemanticQuery.Datum.Basic

/-!
# Constants

A constant is a datum together with its spelling. The spelling is the encoding of the datum, or a
text that the author of the query chose and that decodes to the datum, such as `1.50M`.
-/

set_option autoImplicit false

namespace SemanticQuery

/-- A datum with the text that spells it. -/
structure Constant where
  value : Datum
  encoded : String
  faithful : encoded = value.encode ∨ Datum.decode encoded = some value
deriving DecidableEq

namespace Constant

/-- The constant for a datum, spelled by its encoding. -/
def ofDatum (value : Datum) : Constant :=
  ⟨value, value.encode, .inl rfl⟩

/-- The constant for a datum with a chosen spelling, if the spelling decodes to the datum. -/
def spelled? (value : Datum) (encoded : String) : Option Constant :=
  if h : Datum.decode encoded = some value then some ⟨value, encoded, .inr h⟩ else none

/-- The type of a constant. -/
def type (c : Constant) : ValueType :=
  c.value.type

end Constant

end SemanticQuery
