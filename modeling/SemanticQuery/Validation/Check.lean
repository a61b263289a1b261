import SemanticQuery.Aggregation
import SemanticQuery.Validation.Violation

/-!
# Validating expressions

Validation walks an expression as a rewriter that keeps every node and records what is wrong with
it. A node is judged after its children have been walked. Nothing is rejected on the way; the
caller gets all violations, after those it had before.

The judgement of a node is a computation of its own. It reads the schema and the operands of the
node, and all it does is to record violations.
-/

set_option autoImplicit false

namespace SemanticQuery

/-- A computation that records violations on its way. -/
abbrev Recording := StateM (List Violation)

namespace Violation

/-- Records a violation after those found before. -/
def report (v : Violation) : Recording Unit :=
  modify fun found => found ++ [v]

end Violation

namespace PropertyKind

/-- The violation of referring to a property that is not there or cannot be used. -/
def badReference : PropertyKind → String → String → Violation
  | column => .columnReference
  | measure => .measureReference

end PropertyKind

namespace Property

/-- Tells whether a property may be referred to as one of the given kind. -/
def isUsableAs (options : ValidationOptions) (kind : PropertyKind) (p : Property) : Bool :=
  p.kind == kind && (p.isQueryable || !options.rejectUnqueryable)

end Property

namespace Expr

/-- Judges an entity: its schema has to be known, and to have it. -/
def checkEntity (provider : Provider) (schema name : String) : Recording Unit :=
  match provider schema with
  | none => (Violation.schemaReference schema).report
  | some s =>
      if (s.entity? name).isNone then (Violation.entityReference schema name).report else pure ()

/-- Judges a property of a source: a source that is an entity and exists has to have a usable
property of that name. A source that is no entity, or none that exists, is not judged here. -/
def checkProperty (provider : Provider) (options : ValidationOptions) (kind : PropertyKind) :
    Expr → String → Recording Unit
  | entity schema entityName _, name =>
      match provider.entity? schema entityName with
      | none => pure ()
      | some e =>
          if (e.property? name).any (Property.isUsableAs options kind) then pure ()
          else (kind.badReference entityName name).report
  | _, _ => pure ()

/-- Judges a function that is applied in an expression: the field of the expression, if it has one,
has to support the function. -/
def checkAggregate (provider : Provider) (function : AggregateFunction) (e : Expr) :
    Recording Unit :=
  match e.field? provider with
  | none => pure ()
  | some field =>
      if e.supportsAggregate provider function then pure ()
      else (Violation.aggregate function field.name).report

/-- Judges a pair of operands: where the types of both are known, the right one has to fit the left
one. -/
def checkTypes (provider : Provider) (options : ValidationOptions) (left right : Expr) :
    Recording Unit :=
  if options.checkValueTypes then
    match left.metadata? provider, right.metadata? provider with
    | some l, some r =>
        if l.type.accepts r.type then pure () else (Violation.valueType l.type r.type).report
    | _, _ => pure ()
  else pure ()

/-- Judges the rows of a membership: the entries of one row after the other are compared with the
arguments. -/
def checkRows (provider : Provider) (options : ValidationOptions) (arguments : List Expr)
    (rows : List (List Expr)) : Recording Unit :=
  rows.forM fun row =>
    (arguments.zip row).forM fun pair => checkTypes provider options pair.1 pair.2

/-- Tells whether an expression is a text constant. -/
def isTextConstant : Expr → Bool
  | constant value => value.type.isText
  | _ => false

/-- Tells whether an expression is a column. -/
def isColumnReference : Expr → Bool
  | column _ _ => true
  | _ => false

/-- Judges a text predicate. The operands are judged on their own first; their types are compared
only if both are of the right form. -/
def checkText (provider : Provider) (options : ValidationOptions) (predicate : TextPredicate)
    (left right : Expr) : Recording Unit := do
  unless left.isColumnReference do (Violation.leftOperand predicate).report
  unless right.isTextConstant do (Violation.rightOperand predicate).report
  if left.isColumnReference && right.isTextConstant then
    checkTypes provider options left right

end Expr

namespace Rewriter

/-- Walks the children and then judges the node as they leave it. -/
def judgeAfter (e : Expr) (children : Recording Revision) (judge : Expr → Recording Unit) :
    Recording Revision := do
  let revision ← children
  judge (revision.applyTo e)
  return revision

/-- Keeps every node as its children leave it and records what is wrong with it, after what is wrong
with the children. An entity has no children. -/
def recordViolations (provider : Provider) (options : ValidationOptions) : Rewriter Recording
  | .entity schema name _, _ => do
      Expr.checkEntity provider schema name
      return none
  | e@(.column source name), children =>
      judgeAfter e children fun _ => Expr.checkProperty provider options .column source name
  | e@(.measure source name), children =>
      judgeAfter e children fun _ => Expr.checkProperty provider options .measure source name
  | e@(.aggregation function _), children =>
      judgeAfter e children fun e => Expr.checkAggregate provider function e
  | e@(.compare _ left right), children =>
      judgeAfter e children fun _ => Expr.checkTypes provider options left right
  | e@(.member arguments rows), children =>
      judgeAfter e children fun _ => Expr.checkRows provider options arguments rows
  | e@(.contains left right), children =>
      judgeAfter e children fun _ => Expr.checkText provider options .contains left right
  | e@(.startsWith left right), children =>
      judgeAfter e children fun _ => Expr.checkText provider options .startsWith left right
  | _, children => children

end Rewriter

namespace Expr

/-- Validates an expression. The violations are recorded after those found before. -/
def validateFrom (provider : Provider) (options : ValidationOptions) (found : List Violation)
    (e : Expr) : Revision × List Violation :=
  Id.run ((e.rewrite (Rewriter.recordViolations provider options)).run found)

/-- The violations of an expression. -/
def violations (provider : Provider) (options : ValidationOptions) (e : Expr) : List Violation :=
  (e.validateFrom provider options []).2

end Expr

end SemanticQuery
