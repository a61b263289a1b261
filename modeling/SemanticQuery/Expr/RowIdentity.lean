import SemanticQuery.Expr.Basic

/-!
# Row identities

A row identity is a predicate that names a row by its key: a conjunction, bracketed in any way, of
equations between a key on the left and a constant on the right. A key is a column or a level of a
hierarchy. An identity can be taken apart into its keys and its constants and put together again as
a membership with a single row.

An expression is taken apart in one walk from left to right. Each node is met in a role, and a node
that does not suit its role makes the whole expression malformed. The walk does not stop there; what
it has collected is thrown away at its end.
-/

set_option autoImplicit false

namespace SemanticQuery

/-- The part that a node plays in a row identity. -/
inductive IdentityRole where
  | predicate
  | key
  | value
deriving DecidableEq

/-- What a walk over a row identity has collected. -/
structure IdentityParts where
  keys : List Expr := []
  values : List Expr := []
  /-- Some node did not suit its role. -/
  malformed : Bool := false

namespace IdentityParts

/-- Collects a key. -/
def addKey (parts : IdentityParts) (e : Expr) : IdentityParts :=
  { parts with keys := parts.keys ++ [e] }

/-- Collects a constant. -/
def addValue (parts : IdentityParts) (e : Expr) : IdentityParts :=
  { parts with values := parts.values ++ [e] }

/-- Notes that a node does not suit its role. -/
def reject (parts : IdentityParts) : IdentityParts :=
  { parts with malformed := true }

end IdentityParts

namespace Expr

/-- Walks an expression that is met in a given role. A predicate is a conjunction of predicates or
an equation between a key and a value. -/
def collect : IdentityRole → Expr → IdentityParts → IdentityParts
  | .predicate, and left right, parts =>
      collect .predicate right (collect .predicate left parts)
  | .predicate, compare .equal left right, parts =>
      collect .value right (collect .key left parts)
  | .key, column source name, parts => parts.addKey (column source name)
  | .key, level source name, parts => parts.addKey (level source name)
  | .value, constant value, parts => parts.addValue (constant value)
  | _, _, parts => parts.reject

/-- The parts of a row identity, or nothing when the expression is not one. -/
def identityParts? (e : Expr) : Option IdentityParts :=
  let parts := collect .predicate e {}
  if parts.malformed || parts.keys.isEmpty then none else some parts

/-- The keys of an identity from left to right. -/
def identityKeys? (e : Expr) : Option (List Expr) :=
  e.identityParts?.map IdentityParts.keys

/-- The membership with the keys of an identity as arguments and its constants as the only row. -/
def identityMembership? (e : Expr) : Option Expr :=
  e.identityParts?.map fun parts => member parts.keys [parts.values]

end Expr

end SemanticQuery
