import SemanticQuery.Document.Basic

/-!
# TOML tables

A TOML document is a sequence of blocks: the entries before the first header, and for every header
the entries below it. An entry has a dotted key. This module puts the blocks together to one tree
and refuses what is said twice. How a table came about decides whether it may be extended:

* a table with a header of its own takes no second header and no dotted key from outside its block;
* a table implied by a longer header takes a header of its own later;
* a table made by dotted keys takes more dotted keys, and headers of tables inside it;
* an array of tables takes more tables of the same header, and what leads through it goes to the
  last of its tables;
* values, tables in braces among them, take nothing.
-/

set_option autoImplicit false

namespace SemanticQuery.Document.Toml

/-- How a table came about. -/
inductive Origin where
  | header
  | implied
  | dotted
deriving DecidableEq

/-- A node of the tree of tables. -/
inductive Node where
  | value (content : Document)
  | table (origin : Origin) (entries : List (String × Node))
  | tables (items : List (List (String × Node)))

/-- The entries of a table under construction. -/
abbrev Entries := List (String × Node)

/-- A dotted key. -/
abbrev Key := List String

namespace Entries

/-- Sets the node of a name. -/
def set (entries : Entries) (name : String) (node : Node) : Entries :=
  Dictionary.put name node entries

/-- Changes the entries of the table that a key leads to, making the tables on the way that are
missing. The change is told how the table came about. With `dotted` the key stands in front of a
value and else in a header; the first kind may not lead into a table with a header. -/
def modifyAt (dotted : Bool) (change : Origin → Entries → Option Entries) :
    Key → Origin → Entries → Option Entries
  | [], origin, entries => change origin entries
  | name :: rest, _, entries =>
      match entries.lookup name with
      | none => do
          let origin : Origin := if dotted then .dotted else .implied
          let below ← modifyAt dotted change rest origin []
          return set entries name (.table origin below)
      | some (.value _) => none
      | some (.table origin below) =>
          if dotted && origin == .header then none
          else do
            let below ← modifyAt dotted change rest origin below
            return set entries name (.table origin below)
      | some (.tables items) => do
          let last ← items.getLast?
          let last ← modifyAt dotted change rest .header last
          return set entries name (.tables (items.dropLast ++ [last]))

/-- Adds an entry with a dotted key. A longer key has to end in a table made by dotted keys. -/
def assign (entries : Entries) (key : Key) (content : Document) : Option Entries := do
  let name ← key.getLast?
  let path := key.dropLast
  modifyAt true
    (fun origin below =>
      if (origin == .dotted) == path.isEmpty then none
      else if (below.lookup name).isSome then none
      else some (below ++ [(name, .value content)]))
    path .header entries

/-- Adds entries with dotted keys one after the other. -/
def assignAll (entries : Entries) (pairs : List (Key × Document)) : Option Entries :=
  pairs.foldlM (fun entries pair => assign entries pair.1 pair.2) entries

end Entries

/-- What a block of entries belongs to: the top, a table, or one more table of an array. -/
inductive Header where
  | top
  | table (key : Key)
  | item (key : Key)

/-- A header with the entries below it. -/
structure Block where
  header : Header
  pairs : List (Key × Document)

namespace Entries

/-- Adds a block below its header. -/
def addBlock (entries : Entries) (block : Block) : Option Entries :=
  match block.header with
  | .top => assignAll entries block.pairs
  | .table key => do
      let name ← key.getLast?
      modifyAt false
        (fun _ below => do
          let start ←
            match below.lookup name with
            | none => some []
            | some (.table .implied inner) => some inner
            | some _ => none
          let inner ← assignAll start block.pairs
          return set below name (.table .header inner))
        key.dropLast .header entries
  | .item key => do
      let name ← key.getLast?
      modifyAt false
        (fun _ below => do
          let items ←
            match below.lookup name with
            | none => some []
            | some (.tables items) => some items
            | some _ => none
          let inner ← assignAll [] block.pairs
          return set below name (.tables (items ++ [inner])))
        key.dropLast .header entries

end Entries

mutual

/-- The document that a node stands for. -/
def Node.document : Node → Document
  | .value content => content
  | .table _ entries => .table (documentEntries entries)
  | .tables items => .list (documentTables items)

/-- The entries of the document of a table. -/
def documentEntries : List (String × Node) → List (Option String × Document)
  | [] => []
  | (name, node) :: rest => (some name, node.document) :: documentEntries rest

/-- The documents of the tables of an array. -/
def documentTables : List (List (String × Node)) → List Document
  | [] => []
  | entries :: rest => .table (documentEntries entries) :: documentTables rest

end

/-- The document of a table in braces. -/
def inlineTable? (pairs : List (Key × Document)) : Option Document :=
  (Entries.assignAll [] pairs).map fun entries => .table (documentEntries entries)

/-- The document of a sequence of blocks. -/
def ofBlocks? (blocks : List Block) : Option Document :=
  (blocks.foldlM Entries.addBlock []).map fun entries => .table (documentEntries entries)

end SemanticQuery.Document.Toml
