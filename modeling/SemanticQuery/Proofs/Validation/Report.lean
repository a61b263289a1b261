import SemanticQuery.Proofs.Expr.Induction
import SemanticQuery.Validation.Check

/-!
# What a validation reports

`ownViolations` says for each kind of node what is wrong with the node itself. Validation is a walk
that records as it goes; the main statement is that it keeps the expression and records the
violations of every node once, in the order of `nodes`, behind what had been recorded before.

The statements about computations have the form `Records action result vs`: from any list of
violations, the action returns the result and appends `vs`. Actions in sequence record their
violations in sequence, so the walk is followed rule by rule.
-/

set_option autoImplicit false

namespace SemanticQuery

/-! ## What is wrong with a node -/

/-- A property can be used as one of a kind if it is of this kind and, where the options ask for it,
queryable. -/
theorem Property.isUsableAs_iff (options : ValidationOptions) (kind : PropertyKind)
    (p : Property) :
    p.isUsableAs options kind = true ↔
      p.kind = kind ∧ (p.queryable = .queryable ∨ options.rejectUnqueryable = false) := by
  simp [Property.isUsableAs, Property.isQueryable]

namespace Expr

variable (provider : Provider) (options : ValidationOptions)

/-- What is wrong with an entity: its schema is unknown, or else the schema does not have it. -/
def entityViolations (schema name : String) : List Violation :=
  if (provider schema).isNone then [.schemaReference schema]
  else if (provider.entity? schema name).isNone then [.entityReference schema name]
  else []

/-- What is wrong with a reference to a property of a source. Only a source that is an entity is
judged, and only one that exists: an entity that does not is reported where it is named. -/
def propertyViolations (kind : PropertyKind) : Expr → String → List Violation
  | entity schema entityName _, name =>
      match provider.entity? schema entityName with
      | none => []
      | some e =>
          match e.property? name with
          | none => [kind.badReference entityName name]
          | some p =>
              if p.kind = kind ∧
                  (p.queryable = .queryable ∨ options.rejectUnqueryable = false) then []
              else [kind.badReference entityName name]
  | _, _ => []

/-- What is wrong with a function that is applied in an expression: the expression has a field that
does not support the function. -/
def aggregateViolations (function : AggregateFunction) (e : Expr) : List Violation :=
  match e.field? provider with
  | none => []
  | some field =>
      if function ∈ e.supportedAggregates provider then [] else [.aggregate function field.name]

/-- What is wrong with a pair of operands: both have a type, and the right one cannot be assigned to
the left one. -/
def typeViolations (left right : Expr) : List Violation :=
  match left.metadata? provider, right.metadata? provider with
  | some l, some r =>
      if options.checkValueTypes = true ∧ l.type.accepts r.type = false then
        [.valueType l.type r.type]
      else []
  | _, _ => []

/-- What is wrong with the rows of a membership: row by row, what is wrong with the pairs of an
argument and its entry in the row. -/
def rowViolations (arguments : List Expr) (rows : List (List Expr)) : List Violation :=
  rows.flatMap fun row =>
    (arguments.zip row).flatMap fun pair => typeViolations provider options pair.1 pair.2

/-- The type of an expression that is a constant. -/
def constantType? : Expr → Option ValueType
  | constant c => some c.type
  | _ => none

/-- What is wrong with the operands of a text predicate: the left one has to be a column and the
right one a text constant, and only if both are do their types matter. -/
def textViolations (predicate : TextPredicate) (left right : Expr) : List Violation :=
  if left.kind = .column ∧ right.constantType? = some .text then
    typeViolations provider options left right
  else
    (if left.kind = .column then [] else [.leftOperand predicate]) ++
      (if right.constantType? = some .text then [] else [.rightOperand predicate])

/-- What is wrong with a node itself, its children aside. -/
def ownViolations : Expr → List Violation
  | entity schema name _ => entityViolations provider schema name
  | column source name => propertyViolations provider options .column source name
  | measure source name => propertyViolations provider options .measure source name
  | aggregation function argument =>
      aggregateViolations provider function (aggregation function argument)
  | compare _ left right => typeViolations provider options left right
  | member arguments rows => rowViolations provider options arguments rows
  | contains left right => textViolations provider options .contains left right
  | startsWith left right => textViolations provider options .startsWith left right
  | _ => []

end Expr

/-! ## Recording -/

/-- From any list of violations, the action returns the result and appends the given ones. -/
def Records {α : Type} (action : Recording α) (result : α) (vs : List Violation) : Prop :=
  ∀ found, Id.run (action.run found) = (result, found ++ vs)

namespace Records

variable {α β : Type}

/-- Returning a result records nothing. -/
theorem pure (a : α) : Records (Pure.pure a) a [] := by
  intro found
  rw [List.append_nil]
  rfl

/-- A report records its violation. -/
theorem report (v : Violation) : Records v.report () [v] := by
  intro found
  rfl

/-- Actions in sequence record one after the other. -/
theorem bind {action : Recording α} {next : α → Recording β} {a : α} {b : β}
    {vs ws : List Violation} (h : Records action a vs) (hnext : Records (next a) b ws) :
    Records (action >>= next) b (vs ++ ws) := by
  intro found
  have hrun : Id.run ((action >>= next).run found) =
      Id.run ((next (Id.run (action.run found)).1).run (Id.run (action.run found)).2) := rfl
  rw [hrun, h found]
  show Id.run ((next a).run (found ++ vs)) = (b, found ++ (vs ++ ws))
  rw [hnext (found ++ vs), List.append_assoc]

/-- An action before one that records nothing. -/
theorem bind_left {action : Recording α} {next : α → Recording β} {a : α} {b : β}
    {vs : List Violation} (h : Records action a vs) (hnext : Records (next a) b []) :
    Records (action >>= next) b vs := by
  have hboth := h.bind hnext
  rwa [List.append_nil] at hboth

/-- Actions for the entries of a list record entry by entry. -/
theorem forM {γ : Type} {action : γ → Recording PUnit} {vs : γ → List Violation} (items : List γ)
    (h : ∀ item ∈ items, Records (action item) () (vs item)) :
    Records (items.forM action) () (items.flatMap vs) := by
  induction items with
  | nil => exact pure ()
  | cons item rest ih =>
    have hunfold : (item :: rest).forM action = (action item >>= fun _ => rest.forM action) := rfl
    have hfirst := h item (List.mem_cons_self ..)
    have hrest := ih fun other hother => h other (List.mem_cons_of_mem _ hother)
    rw [hunfold, List.flatMap_cons]
    exact hfirst.bind hrest

end Records

/-! ## The judgements -/

section Judgements

variable (provider : Provider) (options : ValidationOptions)

/-- The judgement of an entity records what is wrong with it. -/
theorem records_checkEntity (schema name : String) :
    Records (Expr.checkEntity provider schema name) ()
      (Expr.entityViolations provider schema name) := by
  unfold Expr.checkEntity Expr.entityViolations Provider.entity?
  cases provider schema with
  | none => exact Records.report _
  | some s =>
    show Records (if (s.entity? name).isNone then (Violation.entityReference schema name).report
      else pure ()) () (if (s.entity? name).isNone then [.entityReference schema name] else [])
    cases s.entity? name with
    | none => exact Records.report _
    | some e => exact Records.pure ()

/-- The judgement of a property records what is wrong with the reference. -/
theorem records_checkProperty (kind : PropertyKind) (source : Expr) (name : String) :
    Records (Expr.checkProperty provider options kind source name) ()
      (Expr.propertyViolations provider options kind source name) := by
  cases source with
  | entity schema entityName localName =>
    simp only [Expr.checkProperty, Expr.propertyViolations]
    cases provider.entity? schema entityName with
    | none => exact Records.pure ()
    | some e =>
      dsimp only
      cases e.property? name with
      | none => exact Records.report _
      | some p =>
        simp only [Option.any_some, ← p.isUsableAs_iff options]
        split
        · exact Records.pure ()
        · exact Records.report _
  | _ => exact Records.pure ()

/-- The judgement of an applied function records what is wrong with it. -/
theorem records_checkAggregate (function : AggregateFunction) (e : Expr) :
    Records (Expr.checkAggregate provider function e) ()
      (Expr.aggregateViolations provider function e) := by
  unfold Expr.checkAggregate Expr.aggregateViolations Expr.supportsAggregate
  cases e.field? provider with
  | none => exact Records.pure ()
  | some field =>
    simp only [List.contains_iff_mem]
    split
    · exact Records.pure ()
    · exact Records.report _

/-- The judgement of a pair of operands records what is wrong with their types. -/
theorem records_checkTypes (left right : Expr) :
    Records (Expr.checkTypes provider options left right) ()
      (Expr.typeViolations provider options left right) := by
  unfold Expr.checkTypes Expr.typeViolations
  rcases left.metadata? provider with _ | l <;> rcases right.metadata? provider with _ | r <;>
    cases options.checkValueTypes
  case some.some.true =>
    simp only [if_true, true_and]
    cases l.type.accepts r.type
    · exact Records.report _
    · exact Records.pure ()
  all_goals exact Records.pure ()

/-- The judgement of the rows of a membership records what is wrong with them. -/
theorem records_checkRows (arguments : List Expr) (rows : List (List Expr)) :
    Records (Expr.checkRows provider options arguments rows) ()
      (Expr.rowViolations provider options arguments rows) := by
  unfold Expr.checkRows Expr.rowViolations
  apply Records.forM
  intro row _
  apply Records.forM
  intro pair _
  exact records_checkTypes provider options pair.1 pair.2

/-- The judgement of a text predicate records what is wrong with its operands. -/
theorem records_checkText (predicate : TextPredicate) (left right : Expr) :
    Records (Expr.checkText provider options predicate left right) ()
      (Expr.textViolations provider options predicate left right) := by
  have hleft : left.kind = .column ↔ left.isColumnReference = true := by
    cases left <;> simp [Expr.kind, Expr.isColumnReference]
  have hright : right.constantType? = some .text ↔ right.isTextConstant = true := by
    cases right <;> simp [Expr.constantType?, Expr.isTextConstant, ValueType.isText]
  unfold Expr.checkText Expr.textViolations
  simp only [hleft, hright]
  cases left.isColumnReference <;> cases right.isTextConstant
  · exact (Records.report _).bind ((Records.report _).bind_left (Records.pure ()))
  · exact (Records.report _).bind_left (Records.pure ())
  · exact (Records.report _).bind_left (Records.pure ())
  · exact records_checkTypes provider options left right

end Judgements

/-! ## The walk -/

section Walk

/-- A node that is judged after its children records its violations behind theirs. -/
theorem records_judgeAfter {children : Recording Revision} {below own : List Violation} (e : Expr)
    (judge : Expr → Recording Unit) (hchildren : Records children none below)
    (hjudge : Records (judge e) () own) :
    Records (Rewriter.judgeAfter e children judge) none (below ++ own) :=
  hchildren.bind (hjudge.bind_left (Records.pure none))

/-- A child that is kept leaves its parent as it is. -/
theorem records_child {child : Recording Revision} {vs : List Violation} (build : Expr → Expr)
    (h : Records child none vs) :
    Records (do return (← child).map build) none vs :=
  h.bind_left (Records.pure _)

/-- Two parts that are kept leave the whole as it is, and record one after the other. -/
theorem records_parts {α β γ : Type} {first : Recording (Option α)} {second : Recording (Option β)}
    {vs ws : List Violation} (build : α → β → γ) (a : α) (b : β) (hfirst : Records first none vs)
    (hsecond : Records second none ws) :
    Records (do return rebuild build a b (← first) (← second)) none (vs ++ ws) :=
  hfirst.bind (hsecond.bind_left (Records.pure _))

variable (provider : Provider) (options : ValidationOptions)

/-- The walk over an expression keeps it and records the violations of its nodes. -/
def WalkRecords (e : Expr) : Prop :=
  Records (e.rewrite (Rewriter.recordViolations provider options)) none
    (e.nodes.flatMap (Expr.ownViolations provider options))

/-- The walk over a list records entry by entry. -/
theorem records_rewriteAll {es : List Expr} (h : ∀ e ∈ es, WalkRecords provider options e) :
    Records (Expr.rewriteAll (Rewriter.recordViolations provider options) es) none
      ((es.flatMap Expr.nodes).flatMap (Expr.ownViolations provider options)) := by
  induction es with
  | nil => exact Records.pure none
  | cons e rest ih =>
    have hfirst := h e (List.mem_cons_self ..)
    have hrest := ih fun other hother => h other (List.mem_cons_of_mem _ hother)
    rw [Expr.rewriteAll, List.flatMap_cons, List.flatMap_append]
    exact records_parts List.cons e rest hfirst hrest

/-- The walk over a list of rows records row by row. -/
theorem records_rewriteRows {rows : List (List Expr)}
    (h : ∀ row ∈ rows, ∀ e ∈ row, WalkRecords provider options e) :
    Records (Expr.rewriteRows (Rewriter.recordViolations provider options) rows) none
      ((rows.flatMap fun row => row.flatMap Expr.nodes).flatMap
        (Expr.ownViolations provider options)) := by
  induction rows with
  | nil => exact Records.pure none
  | cons row rest ih =>
    have hfirst := records_rewriteAll provider options (h row (List.mem_cons_self ..))
    have hrest := ih fun other hother => h other (List.mem_cons_of_mem _ hother)
    rw [Expr.rewriteRows, List.flatMap_cons, List.flatMap_append]
    exact records_parts List.cons row rest hfirst hrest

/-- A node whose kind is not judged has nothing wrong with itself. -/
theorem records_unjudged {e : Expr} {children : Recording Revision} {below : List Violation}
    (hchildren : Records children none below) (hown : e.ownViolations provider options = []) :
    Records children none (below ++ e.ownViolations provider options) := by
  rw [hown, List.append_nil]
  exact hchildren

/-- **The walk records every node once**, children before their parent. By induction on the
expression: each rule of the walk runs the walk of the children, once, and then the judgement of
its kind. -/
theorem walkRecords (e : Expr) : WalkRecords provider options e := by
  induction e <;> unfold WalkRecords <;> rw [Expr.rewrite, Expr.nodes]
  case entity schema name localName =>
    rw [List.flatMap_singleton]
    exact (records_checkEntity provider schema name).bind_left (Records.pure none)
  case constant | now | defaultValue | anyValue =>
    exact Records.pure none
  all_goals rw [List.flatMap_append, List.flatMap_singleton]
  case column source name ih =>
    have hjudge := records_checkProperty provider options .column source name
    exact records_judgeAfter (.column source name)
      (fun _ => Expr.checkProperty provider options .column source name)
      (records_child _ ih) hjudge
  case measure source name ih =>
    have hjudge := records_checkProperty provider options .measure source name
    exact records_judgeAfter (.measure source name)
      (fun _ => Expr.checkProperty provider options .measure source name)
      (records_child _ ih) hjudge
  case aggregation function argument ih =>
    have hjudge := records_checkAggregate provider function (.aggregation function argument)
    exact records_judgeAfter (.aggregation function argument)
      (Expr.checkAggregate provider function)
      (records_child _ ih) hjudge
  case variation ih | hierarchy ih | level ih | nonempty ih | not ih | dateSpan ih | dateAdd ih =>
    exact records_unjudged provider options (records_child _ ih) rfl
  -- The walk rebuilds a range from its argument and the pair of its bounds.
  case between argument lower upper hargument hlower hupper =>
    rw [List.flatMap_append, List.flatMap_append, List.append_assoc (argument.nodes.flatMap _)]
    have hbounds := records_parts Prod.mk lower upper hlower hupper
    have hparts := records_parts (fun e (bounds : Expr × Expr) => Expr.between e bounds.1 bounds.2)
      argument (lower, upper) hargument hbounds
    exact records_unjudged provider options hparts rfl
  case member arguments rows harguments hrows =>
    rw [List.flatMap_append, Expr.nodesOfAll_eq_flatMap, Expr.nodesOfRows_eq_flatMap]
    have hparts := records_parts Expr.member arguments rows
      (records_rewriteAll provider options harguments) (records_rewriteRows provider options hrows)
    have hjudge := records_checkRows provider options arguments rows
    exact records_judgeAfter (.member arguments rows)
      (fun _ => Expr.checkRows provider options arguments rows) hparts hjudge
  all_goals rw [List.flatMap_append]
  case compare comparison left right hleft hright =>
    have hjudge := records_checkTypes provider options left right
    exact records_judgeAfter (.compare comparison left right)
      (fun _ => Expr.checkTypes provider options left right)
      (records_parts _ left right hleft hright) hjudge
  case contains left right hleft hright =>
    have hjudge := records_checkText provider options .contains left right
    exact records_judgeAfter (.contains left right)
      (fun _ => Expr.checkText provider options .contains left right)
      (records_parts _ left right hleft hright) hjudge
  case startsWith left right hleft hright =>
    have hjudge := records_checkText provider options .startsWith left right
    exact records_judgeAfter (.startsWith left right)
      (fun _ => Expr.checkText provider options .startsWith left right)
      (records_parts _ left right hleft hright) hjudge
  case and left right hleft hright | or left right hleft hright =>
    exact records_unjudged provider options (records_parts _ left right hleft hright) rfl

end Walk

/-! ## The report -/

namespace Expr

variable (provider : Provider) (options : ValidationOptions)

/-- **Validation reports what is wrong with the nodes.** It keeps the expression, leaves what had
been found before as it is, and appends for every occurrence of a node, children before their
parent and in the order of the fields, exactly what is wrong with that node itself. -/
theorem validateFrom_eq_append_ownViolations (found : List Violation) (e : Expr) :
    e.validateFrom provider options found =
      (none, found ++ e.nodes.flatMap (ownViolations provider options)) := by
  have hwalk : WalkRecords provider options e := walkRecords provider options e
  exact hwalk found

/-- What is wrong with an operand stands before what is wrong with the predicate over it. -/
example :
    (contains (.column (.entity "s" "Sales" none) "Region") .now).validateFrom (fun _ => none) {}
      [.leftOperand .startsWith] =
    (none, [.leftOperand .startsWith, .schemaReference "s", .rightOperand .contains]) := rfl

/-- Two expressions are reported on alike if the same is wrong with their nodes. -/
theorem validateFrom_congr {provider provider' : Provider} {options options' : ValidationOptions}
    {e e' : Expr} (h : e.nodes.flatMap (ownViolations provider options) =
      e'.nodes.flatMap (ownViolations provider' options')) (found : List Violation) :
    e.validateFrom provider options found = e'.validateFrom provider' options' found := by
  have he : e.validateFrom provider options found = _ := walkRecords provider options e found
  have he' : e'.validateFrom provider' options' found = _ :=
    walkRecords provider' options' e' found
  rw [he, he', h]

/-- The violations of an expression are those of its nodes. -/
theorem violations_eq_flatMap (e : Expr) :
    e.violations provider options = e.nodes.flatMap (ownViolations provider options) := by
  have hrun := walkRecords provider options e []
  have hfound : (e.validateFrom provider options []).2 =
      [] ++ e.nodes.flatMap (ownViolations provider options) := congrArg Prod.snd hrun
  rw [List.nil_append] at hfound
  exact hfound

end Expr

end SemanticQuery
