import SemanticQuery.Schema.Consistency

/-!
# Files of documents

A file as far as loading it can tell: its name, which decides the format, and its content, if there
is any. Together with the reasons for which loading a document fails.
-/

set_option autoImplicit false

namespace SemanticQuery

/-- The reasons for which loading fails. -/
inductive LoadError where
  /-- The file is missing or is no text. -/
  | unreadable
  /-- The text is not TOML, or not of the expected shape. -/
  | malformedToml
  /-- The text is not JSON, or not of the expected shape. -/
  | malformedJson
  /-- A reference of the schemas leads nowhere. -/
  | invalidSchema (reference : DanglingReference)
deriving DecidableEq

namespace LoadError

/-- The text of an error of content; errors of form have none. -/
def message? : LoadError → Option String
  | invalidSchema reference => some ("invalid schema: " ++ reference.message)
  | _ => none

end LoadError

/-- A file name with the content of the file, if it exists. -/
structure File where
  name : String
  content : Option ByteArray

namespace File

/-- The text of a file. -/
def read (f : File) : Except LoadError String :=
  match f.content.bind String.fromUTF8? with
  | some text => .ok text
  | none => .error .unreadable

/-- The extension of a file name: what follows the last dot, if there is a dot with something in
front of it. -/
def extension? (f : File) : Option String :=
  let reversed := f.name.toList.reverse
  match reversed.dropWhile (· != '.') with
  | [] => none
  | [_] => none
  | _ => some (String.ofList (reversed.takeWhile (· != '.')).reverse)

/-- Tells whether a file holds JSON by its name; all other files hold TOML. -/
def isJson (f : File) : Bool :=
  f.extension? == some "json"

end File

end SemanticQuery
