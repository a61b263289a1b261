import SemanticQuery.Expr.Basic

/-!
# Rewriting expressions

A revision of an expression is either a new expression or the decision to keep the old one. Keeping
is more than a result that happens to look the same: whatever is kept is shared with the old
expression, and a node is rebuilt only when one of its children has a new expression.

A rewriter decides about one node at a time. It is handed the node and the action that revises the
children; it may run that action and return its outcome, as every rewriter does for the kinds it
does not care about, or return an outcome of its own. The action may have effects, such as
recording what is found on the way.
-/

set_option autoImplicit false

namespace SemanticQuery

/-- What becomes of an expression: a new expression, or nothing when it is kept. -/
abbrev Revision := Option Expr

namespace Revision

/-- The expression that a revision leads to. -/
def applyTo (revision : Revision) (e : Expr) : Expr :=
  revision.getD e

end Revision

/-- A rule for revising a node, given the action that revises its children. -/
abbrev Rewriter (m : Type → Type) := Expr → m Revision → m Revision

/-- Rebuilds something of two parts when at least one of them has changed. -/
def rebuild {α β γ : Type} (build : α → β → γ) (a : α) (b : β) :
    Option α → Option β → Option γ
  | none, none => none
  | a', b' => some (build (a'.getD a) (b'.getD b))

/-- Nothing is rebuilt exactly when neither part has changed. -/
theorem rebuild_eq_none_iff {α β γ : Type} (build : α → β → γ) (a : α) (b : β)
    (a' : Option α) (b' : Option β) :
    rebuild build a b a' b' = none ↔ a' = none ∧ b' = none := by
  cases a' <;> cases b' <;> simp [rebuild]

/-- Whatever has changed, the result has the current parts. -/
theorem rebuild_getD {α β γ : Type} (build : α → β → γ) (a : α) (b : β)
    (a' : Option α) (b' : Option β) :
    (rebuild build a b a' b').getD (build a b) = build (a'.getD a) (b'.getD b) := by
  cases a' <;> cases b' <;> rfl

namespace Expr

variable {m : Type → Type} [Monad m]

mutual

/-- Revises an expression from the leaves up, each node by the given rule. -/
def rewrite (rule : Rewriter m) : Expr → m Revision
  | entity schema name localName => rule (entity schema name localName) (pure none)
  | column source name =>
      rule (column source name) do
        return (← rewrite rule source).map fun source => column source name
  | measure source name =>
      rule (measure source name) do
        return (← rewrite rule source).map fun source => measure source name
  | aggregation function argument =>
      rule (aggregation function argument) do
        return (← rewrite rule argument).map fun argument => aggregation function argument
  | variation source name property =>
      rule (variation source name property) do
        return (← rewrite rule source).map fun source => variation source name property
  | hierarchy source name =>
      rule (hierarchy source name) do
        return (← rewrite rule source).map fun source => hierarchy source name
  | level source name =>
      rule (level source name) do
        return (← rewrite rule source).map fun source => level source name
  | and left right =>
      rule (and left right) do
        return rebuild and left right (← rewrite rule left) (← rewrite rule right)
  | or left right =>
      rule (or left right) do
        return rebuild or left right (← rewrite rule left) (← rewrite rule right)
  | compare comparison left right =>
      rule (compare comparison left right) do
        return rebuild (compare comparison) left right
          (← rewrite rule left) (← rewrite rule right)
  | between argument lower upper =>
      rule (between argument lower upper) do
        let argument' ← rewrite rule argument
        let bounds' := rebuild Prod.mk lower upper (← rewrite rule lower) (← rewrite rule upper)
        return rebuild (fun argument bounds => between argument bounds.1 bounds.2)
          argument (lower, upper) argument' bounds'
  | member arguments rows =>
      rule (member arguments rows) do
        return rebuild member arguments rows
          (← rewriteAll rule arguments) (← rewriteRows rule rows)
  | contains left right =>
      rule (contains left right) do
        return rebuild contains left right (← rewrite rule left) (← rewrite rule right)
  | startsWith left right =>
      rule (startsWith left right) do
        return rebuild startsWith left right (← rewrite rule left) (← rewrite rule right)
  | nonempty argument =>
      rule (nonempty argument) do
        return (← rewrite rule argument).map fun argument => nonempty argument
  | not argument =>
      rule (not argument) do
        return (← rewrite rule argument).map fun argument => not argument
  | constant value => rule (constant value) (pure none)
  | dateSpan unit argument =>
      rule (dateSpan unit argument) do
        return (← rewrite rule argument).map fun argument => dateSpan unit argument
  | dateAdd unit amount argument =>
      rule (dateAdd unit amount argument) do
        return (← rewrite rule argument).map fun argument => dateAdd unit amount argument
  | now => rule now (pure none)
  | defaultValue => rule defaultValue (pure none)
  | anyValue => rule anyValue (pure none)

/-- Revises the entries of a list; the list is kept when all of them are. -/
def rewriteAll (rule : Rewriter m) : List Expr → m (Option (List Expr))
  | [] => pure none
  | e :: rest => do
      return rebuild List.cons e rest (← rewrite rule e) (← rewriteAll rule rest)

/-- Revises the rows of a list; the list is kept when all of them are. -/
def rewriteRows (rule : Rewriter m) : List (List Expr) → m (Option (List (List Expr)))
  | [] => pure none
  | row :: rest => do
      return rebuild List.cons row rest (← rewriteAll rule row) (← rewriteRows rule rest)

end

end Expr

end SemanticQuery
