import SemanticQuery.Expr.Rewrite
import SemanticQuery.Expr.SharedNodes

/-!
# Rewriting expressions that share nodes

Whether a rewriting has kept a node is not to be seen from the expression that it returns. It is a
matter of handles: each node has one, a rule may hand a node back by its handle, and an inner node
is made anew only when one of its children has come back with another handle than it had. What is
kept is then shared by the old expression and the new one, at the root and anywhere below it.

So the rewriting is run here on expressions whose nodes have handles. It returns an expression that
tells of each node whether it was there before, and with which handle, or was made on the way.
-/

set_option autoImplicit false

namespace SemanticQuery

variable {α : Type}

/-- The handles of the nodes at the places of an expression. -/
abbrev Handles (α : Type) := Address → α

/-- The handles of the nodes below a child. -/
def Handles.below (handles : Handles α) (child : Nat) : Handles α :=
  fun address => handles (child :: address)

/-- An expression and the handles of its nodes. -/
structure SharedExpr (α : Type) where
  expr : Expr
  handles : Handles α

/-- Where a node of a rewritten expression comes from: it was there before, with its handle, or it
was made on the way. -/
inductive Origin (α : Type) where
  | old (handle : α)
  | made
deriving DecidableEq

namespace Expr

/-- Deals entries out to rows that are as long as the given ones. -/
def dealRows : List (List Expr) → List Expr → List (List Expr)
  | [], _ => []
  | row :: rest, es => es.take row.length :: dealRows rest (es.drop row.length)

/-- The node with as many other children and all its other fields. -/
def withChildren : Expr → List Expr → Expr
  | column _ name, [source] => column source name
  | measure _ name, [source] => measure source name
  | aggregation function _, [argument] => aggregation function argument
  | variation _ name property, [source] => variation source name property
  | hierarchy _ name, [source] => hierarchy source name
  | level _ name, [source] => level source name
  | and _ _, [left, right] => and left right
  | or _ _, [left, right] => or left right
  | compare comparison _ _, [left, right] => compare comparison left right
  | between _ _ _, [argument, lower, upper] => between argument lower upper
  | member arguments rows, es =>
      member (es.take arguments.length) (dealRows rows (es.drop arguments.length))
  | contains _ _, [left, right] => contains left right
  | startsWith _ _, [left, right] => startsWith left right
  | nonempty _, [argument] => nonempty argument
  | not _, [argument] => not argument
  | dateSpan unit _, [argument] => dateSpan unit argument
  | dateAdd unit amount _, [argument] => dateAdd unit amount argument
  | e, _ => e

end Expr

namespace SharedExpr

/-- The handle of an expression is that of its root. -/
def handle (shared : SharedExpr α) : α :=
  shared.handles []

/-- The expression with every node that it had before. -/
def kept (shared : SharedExpr α) : SharedExpr (Origin α) where
  expr := shared.expr
  handles := fun address => .old (shared.handles address)

/-- A new node in the place of the root, with the given children. -/
def withChildren (shared : SharedExpr α) (children : List (SharedExpr (Origin α))) :
    SharedExpr (Origin α) where
  expr := shared.expr.withChildren (children.map expr)
  handles
    | [] => .made
    | child :: address => (children[child]?.map fun e => e.handles address).getD .made

/-- Tells whether the children from a given number on have come back with the handles that they
had. -/
def allKept [DecidableEq α] (handles : Handles α) (child : Nat) :
    List (SharedExpr (Origin α)) → Bool
  | [] => true
  | e :: rest => decide (e.handle = .old (handles [child])) && allKept handles (child + 1) rest

/-- The node for the children that have come back: the old node if all of them have the handles that
they had, and a new one otherwise. -/
def rebuild [DecidableEq α] (shared : SharedExpr α) (children : List (SharedExpr (Origin α))) :
    SharedExpr (Origin α) :=
  if allKept shared.handles 0 children then shared.kept else shared.withChildren children

/-- What remains of the result of a rewriting when the handles are forgotten: nothing new if it has
the given handle, and the expression otherwise. -/
def revision [DecidableEq α] (handle : α) (result : SharedExpr (Origin α)) : Revision :=
  if result.handle = .old handle then none else some result.expr

end SharedExpr

/-- A rule for rewriting a node that has a handle, given the action that rewrites the node by its
children. -/
abbrev SharingRewriter (α : Type) (m : Type → Type) :=
  SharedExpr α → m (SharedExpr (Origin α)) → m (SharedExpr (Origin α))

namespace Expr

variable {m : Type → Type} [Monad m] [DecidableEq α]

mutual

/-- Rewrites an expression whose nodes have handles from the leaves up, each node by the given
rule. -/
def rewriteSharing (rule : SharingRewriter α m) (e : Expr) (handles : Handles α) :
    m (SharedExpr (Origin α)) :=
  rule ⟨e, handles⟩ <| SharedExpr.rebuild ⟨e, handles⟩ <$>
    match e with
    | entity _ _ _ | constant _ | now | defaultValue | anyValue => pure []
    | column child _ | measure child _ | aggregation _ child | variation child _ _
    | hierarchy child _ | level child _ | nonempty child | not child | dateSpan _ child
    | dateAdd _ _ child => do
        return [← rewriteSharing rule child (handles.below 0)]
    | and left right | or left right | compare _ left right | contains left right
    | startsWith left right => do
        let left' ← rewriteSharing rule left (handles.below 0)
        let right' ← rewriteSharing rule right (handles.below 1)
        return [left', right']
    | between argument lower upper => do
        let argument' ← rewriteSharing rule argument (handles.below 0)
        let lower' ← rewriteSharing rule lower (handles.below 1)
        let upper' ← rewriteSharing rule upper (handles.below 2)
        return [argument', lower', upper']
    | member arguments rows => do
        let arguments' ← rewriteAllSharing rule 0 arguments handles
        let rows' ← rewriteRowsSharing rule arguments.length rows handles
        return arguments' ++ rows'

/-- Rewrites the entries of a list that are the children from a given number on. -/
def rewriteAllSharing (rule : SharingRewriter α m) (child : Nat) (es : List Expr)
    (handles : Handles α) : m (List (SharedExpr (Origin α))) :=
  match es with
  | [] => pure []
  | e :: rest => do
      let e' ← rewriteSharing rule e (handles.below child)
      let rest' ← rewriteAllSharing rule (child + 1) rest handles
      return e' :: rest'

/-- Rewrites the entries of the rows that are the children from a given number on. -/
def rewriteRowsSharing (rule : SharingRewriter α m) (child : Nat) (rows : List (List Expr))
    (handles : Handles α) : m (List (SharedExpr (Origin α))) :=
  match rows with
  | [] => pure []
  | row :: rest => do
      let row' ← rewriteAllSharing rule child row handles
      let rest' ← rewriteRowsSharing rule (child + row.length) rest handles
      return row' ++ rest'

end

end Expr

end SemanticQuery
