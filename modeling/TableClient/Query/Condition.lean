import TableClient.Query.Operand
import TableClient.Query.Operator

/-!
# Conditions

The conditions that can be asked of the current field. What a condition asks for is settled in two
parts: a plan, which depends on the operands alone, names the operator, the operand and the kinds
it may be of; the field and the operand are checked against the plan afterwards.

## Main definitions

* `TableClient.Query.Condition` — the conditions.
* `TableClient.Query.Condition.plan` — operator, operand and accepted kinds of a condition.
-/

set_option relaxedAutoImplicit false
set_option autoImplicit false

namespace TableClient.Query

/-- A test of the current field against a text, or against the field of that name. -/
inductive TextTest where
  | startsWith
  | endsWith
  | contains
  | lacks
  | sameAs
  | differsFrom
  | aboveField
  | atLeastField
  | belowField
  | atMostField
deriving DecidableEq

/-- The operator of a test against a text. -/
def TextTest.operator : TextTest → Operator
  | startsWith => .startsWith
  | endsWith => .endsWith
  | contains => .contains
  | lacks => .notContains
  | sameAs => .sameAs
  | differsFrom => .differentFrom
  | aboveField => .greaterThanField
  | atLeastField => .greaterOrEqualField
  | belowField => .lessThanField
  | atMostField => .lessOrEqualField

/-- A test without an operand. -/
inductive BareTest where
  | empty
  | notEmpty
  | emptyString
  | anything
deriving DecidableEq

/-- The operator of a test without an operand. -/
def BareTest.operator : BareTest → Operator
  | empty => .isEmpty
  | notEmpty => .isNotEmpty
  | emptyString => .emptyString
  | anything => .anything

/-- A test by order. -/
inductive Comparison where
  | above
  | atLeast
  | below
  | atMost
deriving DecidableEq

/-- The operator of a test by order. -/
def Comparison.operator : Comparison → Operator
  | above => .greaterThan
  | atLeast => .greaterOrEqual
  | below => .lessThan
  | atMost => .lessOrEqual

/-- A condition on the current field. -/
inductive Condition where
  | textual (test : TextTest) (operand : Value)
  | bare (test : BareTest)
  | compare (comparison : Comparison) (operand : Value)
  /-- Equality with a single value, or membership when the operand is a sequence. -/
  | equality (negated : Bool) (operand : Value)
  | membership (negated : Bool) (operand : Value)
  | between (start finish : Value)
  /-- Whether the field lies within the last units of time, or before them. -/
  | ago (older : Bool) (amount unit : Value)

/-- What a condition asks for: its operator, its operand, and the kinds the operand may be of. -/
structure Plan where
  operator : Operator
  operand : Value
  accepted : List Kind

/-- The operator of an equality. -/
def equalityOperator (negated : Bool) : Operator := if negated then .notEquals else .equals

/-- The operator of a membership. -/
def membershipOperator (negated : Bool) : Operator := if negated then .notIn else .isIn

/-- A number of units of time: the amount must be a number and the unit a text. -/
def checkDistance (amount unit : Value) : Except Fault Text :=
  match Kind.ofValue? amount, unit with
  | some .number, .text u => .ok u
  | _, _ => .error (.wrongDistance amount.typeName unit.typeName)

/-- Both bounds of a range as one text. They must be of one ordered kind. -/
def encodeBounds (start finish : Value) : Except Fault Text :=
  match Scalar.ofValue? start, Scalar.ofValue? finish with
  | some a, some b =>
    if a.kind = b.kind then do
      let a ← a.literal
      let b ← b.literal
      return a ++ "@" ++ b
    else .error (.unevenBounds start.typeName finish.typeName)
  | _, _ => .error (.unevenBounds start.typeName finish.typeName)

/-- What a condition asks for, before the field is looked at. -/
def Condition.plan : Condition → Except Fault Plan
  | textual test operand => .ok ⟨test.operator, operand, Kind.textOnly⟩
  | bare test => .ok ⟨test.operator, .text "", Kind.textOnly⟩
  | compare comparison operand => .ok ⟨comparison.operator, operand, Kind.comparable⟩
  | equality negated operand =>
    match Kind.ofValue? operand with
    | some .text | some .number =>
      .ok ⟨equalityOperator negated, operand, Kind.textOrNumber⟩
    | some .sequence => .ok ⟨membershipOperator negated, operand, Kind.textOrNumberList⟩
    | _ => .error (.notComparable operand.typeName)
  | membership negated operand =>
    match Kind.ofValue? operand with
    | some .sequence => .ok ⟨membershipOperator negated, operand, Kind.textOrNumberList⟩
    | _ => .error (.notSequence operand.typeName)
  | between start finish => do
    let bounds ← encodeBounds start finish
    return ⟨.between, .text bounds, Kind.textOnly⟩
  | ago older amount unit => do
    let u ← checkDistance amount unit
    let n ← writeNumber amount
    let operand := "@" ++ u ++ "@ago@" ++ n
    return ⟨if older then .relativeBefore else .relativeAfter, .text operand, Kind.textOnly⟩

end TableClient.Query
