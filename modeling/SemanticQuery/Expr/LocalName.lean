import SemanticQuery.Expr.Rewrite

/-!
# Removing local names

The local names of the entities matter inside one query only. Dropping all of them leaves an
expression that no longer depends on the query it was taken from.
-/

set_option autoImplicit false

namespace SemanticQuery

namespace Rewriter

/-- Drops the local name of every entity that has one, be it empty. -/
def dropLocalNames : Rewriter Id
  | .entity schema name (some _), _ => some (.entity schema name none)
  | _, children => children

end Rewriter

namespace Expr

/-- The expression without local names; kept when it has none. -/
def withoutLocalNames (e : Expr) : Revision :=
  Id.run (e.rewrite Rewriter.dropLocalNames)

end Expr

end SemanticQuery
