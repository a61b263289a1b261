/-!
# Value types

The type tags that constants and the properties of a schema share, with their names and the rule
for assigning a value of one type to a slot of another.
-/

set_option autoImplicit false

namespace SemanticQuery

/-- The type of a constant or of a property. -/
inductive ValueType where
  | null
  | text
  | decimal
  | double
  | integer
  | boolean
  | date
  | dateTime
  | time
  | duration
  | binary
deriving DecidableEq

namespace ValueType

/-- All value types, in the order of their declaration. -/
def all : List ValueType :=
  [null, text, decimal, double, integer, boolean, date, dateTime, time, duration, binary]

/-- The name of a value type, in schemas and in messages. -/
def name : ValueType → String
  | null => "null"
  | text => "text"
  | decimal => "decimal"
  | double => "double"
  | integer => "integer"
  | boolean => "boolean"
  | date => "date"
  | dateTime => "dateTime"
  | time => "time"
  | duration => "duration"
  | binary => "binary"

/-- The value type with a given name. -/
def ofName? (s : String) : Option ValueType :=
  all.find? fun type => type.name == s

/-- The types of numbers. -/
def isNumeric : ValueType → Bool
  | integer | double | decimal => true
  | _ => false

/-- The type of whole numbers. -/
def isInteger (type : ValueType) : Bool :=
  type == integer

/-- The type of texts. -/
def isText (type : ValueType) : Bool :=
  type == text

/-- The types of dates and times. -/
def isTemporal : ValueType → Bool
  | date | dateTime | time => true
  | _ => false

/-- Tells whether a value of type `source` may be assigned to a slot of type `target`: equal types
are compatible, null fits everywhere, and numbers fit each other. -/
def accepts (target source : ValueType) : Bool :=
  target == source || source == null || (target.isNumeric && source.isNumeric)

end ValueType

end SemanticQuery
