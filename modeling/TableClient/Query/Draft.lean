import TableClient.Query.Condition
import TableClient.Text.Upper

/-!
# Drafts of queries

A query is put together step by step. A draft holds the tokens so far, the field that conditions
apply to, and the relative conditions that were begun: such a condition captures the field, a
quantifier and a distance when it is begun, and adds its token when it is completed with the name
of a second field, once.

Every step is an action that may be refused. Actions run in a fixed order of checks and effects and
keep whatever effect they had when they are refused, so that a refused step leaves the draft
unchanged is a fact about them and not a feature of their type.

## Main definitions

* `TableClient.Query.Builder`, `TableClient.Query.Relative`, `TableClient.Query.Draft` — the data.
* `TableClient.Query.Call` — the steps, and `Call.perform` their action.
* `TableClient.Query.Draft.step`, `TableClient.Query.Draft.run` — one step, and a list of steps.
-/

set_option relaxedAutoImplicit false
set_option autoImplicit false

namespace TableClient.Query

/-- The tokens of a query in order, and the field that conditions apply to. -/
structure Builder where
  tokens : List Text
  field : Value

/-- The builder without tokens and field. -/
def Builder.empty : Builder := ⟨[], .text ""⟩

/-- The encoded query: the tokens without separators. -/
def Builder.encoded (b : Builder) : Text := Text.flatten b.tokens

/-- The encoded query of a builder that has tokens. -/
def Builder.build (b : Builder) : Except Fault Text :=
  if b.tokens.isEmpty then .error .emptyQuery else .ok b.encoded

/-- A relative condition that was begun, with what it captured then. -/
structure Relative where
  field : Value
  quantifier : Value
  amount : Value
  unit : Value
  completed : Bool

/-- A query being put together, with its relative conditions in the order they were begun. -/
structure Draft where
  builder : Builder
  relatives : List Relative

/-- The draft of a new query. -/
def Draft.empty : Draft := ⟨.empty, []⟩

/-- What a step answers. -/
inductive Reply where
  /-- The builder itself, for the next step. -/
  | builder
  /-- The encoded query. -/
  | encoded (text : Text)
  /-- A relative condition as it is now. -/
  | relative (r : Relative)

/-- A step of a query. Relative conditions are numbered from 0 in the order they were begun. -/
inductive Call where
  | field (name : Value)
  | condition (c : Condition)
  | order (descending : Bool)
  | join (marker : Join)
  /-- Begins a relative condition whose unit must be one of the known ones. -/
  | relative (less : Bool) (amount unit : Value)
  /-- Begins a relative condition from unchecked parts. -/
  | relativeParts (quantifier amount unit : Value)
  /-- Completes a relative condition with a second field. -/
  | before (index : Nat) (field : Value)
  /-- Shows a relative condition. -/
  | showRelative (index : Nat)
  | build

/-- An action on a draft that may be refused. -/
abbrev Action := ExceptT Fault (StateM Draft)

/-- The draft with a token added. -/
def Draft.push (d : Draft) (token : Text) : Draft :=
  { d with builder := { d.builder with tokens := d.builder.tokens ++ [token] } }

/-- The draft with a relative condition added. -/
def Draft.begin (d : Draft) (r : Relative) : Draft := { d with relatives := d.relatives ++ [r] }

/-- The draft in which a relative condition is completed. -/
def Draft.complete (d : Draft) (index : Nat) : Draft :=
  { d with relatives := d.relatives.modify index fun r => { r with completed := true } }

namespace Action

/-- Succeeds when the field counts as set. -/
def requireField (field : Value) : Action Unit :=
  if field.isTruthy then pure () else throw .missingField

/-- Adds the token of a condition, after all checks: the field that must be set, the text before
the operator, and the operand. -/
def append (required left : Value) (plan : Plan) : Action Unit := do
  requireField required
  let left ← match left with
    | .text t => pure t
    | v => throw (.wrongKind Kind.textOnly v.typeName)
  let operand ← liftExcept (encode plan.accepted plan.operand)
  modify (·.push (left ++ plan.operator.tag ++ operand))

/-- Adds a condition on the current field. -/
def condition (c : Condition) : Action Unit := do
  let plan ← liftExcept c.plan
  let field := (← get).builder.field
  append field field plan

/-- Adds an ordering by the current field. -/
def order (descending : Bool) : Action Unit := do
  let field := (← get).builder.field
  requireField field
  match field with
  | .text name =>
    let operator : Operator := if descending then .orderByDescending else .orderBy
    modify (·.push (operator.tag ++ name))
  | _ => throw .unorderableField

/-- A quantifier in capitals. It is a text, or bytes in which ASCII letters are made capitals. -/
def capitals? : Value → Option Value
  | .text q => some (.text q.upper)
  | .bytes bs => some (.bytes (bs.map fun b => if 0x61 ≤ b ∧ b ≤ 0x7a then b - 0x20 else b))
  | _ => none

/-- Begins a relative condition on the current field. -/
def beginRelative (quantifier amount unit : Value) : Action Relative := do
  let field := (← get).builder.field
  match capitals? quantifier with
  | some q =>
    let r : Relative := ⟨field, q, amount, unit, false⟩
    modify (·.begin r)
    return r
  | none => throw .quantifierNotText

/-- Begins a relative condition whose distance and unit are checked. -/
def beginKnownRelative (less : Bool) (amount unit : Value) : Action Relative := do
  let u ← liftExcept (checkDistance amount unit)
  if relativeUnits.contains u then
    beginRelative (.text (if less then "less" else "more")) amount unit
  else throw (.unknownUnit u)

/-- The operator that a quantifier stands for. -/
def relativeOperator? (quantifier : Value) : Option Operator :=
  Operator.all.find? fun o => quantifier.shown ++ "THAN" == o.tag

/-- The operand of a relative condition: the captured field and the distance. -/
def relativeOperand (r : Relative) : Except Fault Text := do
  let field ← written Value.shown r.field
  let unit ← written Value.shown r.unit
  let n ← writeNumber r.amount
  return field ++ "@" ++ unit ++ "@before@" ++ n

/-- The relative condition of the given number. -/
def relative (index : Nat) : Action Relative := do
  match (← get).relatives[index]? with
  | some r => return r
  | none => throw .noSuchRelative

/-- Completes a relative condition with a second field. -/
def before (index : Nat) (field : Value) : Action Unit := do
  let r ← relative index
  if r.completed then throw .alreadyCompleted
  requireField (← get).builder.field
  let operand ← liftExcept (relativeOperand r)
  match relativeOperator? r.quantifier with
  | none => throw .unknownQuantifier
  | some operator =>
    append r.field field ⟨operator, .text operand, Kind.textOnly⟩
    modify (·.complete index)

end Action

/-- The action of a step. -/
def Call.perform : Call → Action Reply
  | .field name => do
    modify fun d => { d with builder := { d.builder with field := name } }
    return .builder
  | .condition c => do
    Action.condition c
    return .builder
  | .order descending => do
    Action.order descending
    return .builder
  | .join marker => do
    modify (·.push marker.tag)
    return .builder
  | .relative less amount unit => return .relative (← Action.beginKnownRelative less amount unit)
  | .relativeParts quantifier amount unit =>
    return .relative (← Action.beginRelative quantifier amount unit)
  | .before index second => do
    Action.before index second
    return .builder
  | .showRelative index => return .relative (← Action.relative index)
  | .build => do return .encoded (← liftExcept (← get).builder.build)

/-- One step on a draft: the answer or the reason for refusing it, and the draft afterwards. -/
def Draft.step (d : Draft) (c : Call) : Except Fault Reply × Draft := c.perform.run d

/-- Steps one after the other; a refused step does not end the run. -/
def Draft.run (d : Draft) : List Call → List (Except Fault Reply) × Draft
  | [] => ([], d)
  | c :: cs =>
    let (reply, d) := d.step c
    let (replies, d) := d.run cs
    (reply :: replies, d)

end TableClient.Query
