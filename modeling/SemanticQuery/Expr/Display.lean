import SemanticQuery.Expr.Basic

/-!
# The text of an expression

Expressions are displayed in one line: properties in brackets after their source, predicates in
parentheses with their operator in the middle, functions with their arguments in parentheses, and
constants by their spelling. Two different expressions may have the same text.
-/

set_option autoImplicit false

namespace SemanticQuery.Expr

/-- The text of an entity: the schema unless it is empty, the name, and the local name if there is
one. -/
def displayEntity (schema name : String) (localName : Option String) : String :=
  (if schema.isEmpty then "" else schema ++ ".") ++ name ++
    match localName with
    | some label => " as " ++ label
    | none => ""

/-- Texts in parentheses, separated by commas. -/
def parenthesized (texts : List String) : String :=
  "(" ++ ", ".intercalate texts ++ ")"

mutual

/-- The text of an expression. -/
def display : Expr → String
  | entity schema name localName => displayEntity schema name localName
  | column source name => display source ++ ".[" ++ name ++ "]"
  | measure source name => display source ++ ".[" ++ name ++ "]"
  | aggregation function argument => function.displayName ++ "(" ++ display argument ++ ")"
  | variation source name property =>
      display source ++ ".[" ++ property ++ "].Variation(" ++ name ++ ")"
  | hierarchy source name => display source ++ ".Hierarchy(" ++ name ++ ")"
  | level source name => display source ++ ".Level(" ++ name ++ ")"
  | and left right => "(" ++ display left ++ " AND " ++ display right ++ ")"
  | or left right => "(" ++ display left ++ " OR " ++ display right ++ ")"
  | compare comparison left right =>
      "(" ++ display left ++ " " ++ comparison.symbol ++ " " ++ display right ++ ")"
  | between argument lower upper =>
      "(" ++ display argument ++ " BETWEEN " ++ display lower ++ " AND " ++ display upper ++ ")"
  | member arguments rows =>
      parenthesized (displayAll arguments) ++ " IN " ++ parenthesized (displayRows rows)
  | contains left right => "Contains(" ++ display left ++ ", " ++ display right ++ ")"
  | startsWith left right => "StartsWith(" ++ display left ++ ", " ++ display right ++ ")"
  | nonempty argument => "Exists(" ++ display argument ++ ")"
  | not argument => "NOT " ++ display argument
  | constant value => value.encoded
  | dateSpan unit argument => "DateSpan(" ++ unit.name ++ ", " ++ display argument ++ ")"
  | dateAdd unit amount argument =>
      "DateAdd(" ++ unit.name ++ ", " ++ String.ofList (Number.writeInt amount.toInt) ++ ", " ++
        display argument ++ ")"
  | now => "Now()"
  | defaultValue => "DefaultValue"
  | anyValue => "AnyValue"

/-- The texts of a list of expressions. -/
def displayAll : List Expr → List String
  | [] => []
  | e :: rest => display e :: displayAll rest

/-- The texts of a list of rows. -/
def displayRows : List (List Expr) → List String
  | [] => []
  | row :: rest => parenthesized (displayAll row) :: displayRows rest

end

end SemanticQuery.Expr
