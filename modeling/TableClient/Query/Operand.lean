import TableClient.Query.Fault
import TableClient.Value.Shown

/-!
# Operands

The values that a condition compares with, and the text that they have inside a token. A number
with an integral value is written as an integer, however it is represented, and an integer with too
many digits is not written at all; a date-time is written as the UTC second that it denotes; a
sequence is the texts of its elements with commas between them.

## Main definitions

* `TableClient.Query.numberText`, `TableClient.Query.dateTimeText?` — literals.
* `TableClient.Query.written`, `TableClient.Query.writeNumber` — texts without too long a numeral.
* `TableClient.Query.Kind.ofValue?` — the kind of a value.
* `TableClient.Query.Scalar` — a value of a kind other than sequence.
* `TableClient.Query.encode` — the text of an operand, with the kinds that are accepted.
-/

set_option relaxedAutoImplicit false
set_option autoImplicit false

namespace TableClient.Query

/-- The text of a number inside a token. A value that is no number is written as it shows. -/
def numberText : Value → Text
  | .float x =>
    match x.integer? with
    | some n => Numeral.intText n
    | none => x.text
  | v => v.shown

/-- The given text of a value, unless an integer in the value has too many digits. -/
def written (text : Value → Text) (v : Value) : Except Fault Text :=
  if v.isShowable then .ok (text v) else .error .numeralTooLong

/-- The text of a number inside a token, if it is not too long. -/
def writeNumber (v : Value) : Except Fault Text := written numberText v

/-- The text of a date-time inside a token, if its instant lies in the years 1 to 9999 in UTC. The
year is not filled up with zeros. -/
def dateTimeText? (t : DateTime) : Option String :=
  t.utc?.map fun u =>
    Numeral.natText u.date.year ++ u.date.monthDayText ++ " " ++ u.time.text

/-- The kind of a value, if it is of one. -/
def Kind.ofValue? : Value → Option Kind
  | .text _ => some .text
  | .int _ | .float _ => some .number
  | .dateTime _ => some .dateTime
  | .list _ | .tuple _ => some .sequence
  | _ => none

/-- A single value that a condition can compare with. -/
inductive Scalar where
  | text (t : Text)
  | int (n : Int)
  | float (x : Binary64)
  | dateTime (t : DateTime)

namespace Scalar

/-- The kind of a scalar. -/
def kind : Scalar → Kind
  | text _ => .text
  | int _ | float _ => .number
  | dateTime _ => .dateTime

/-- The scalar as a value. -/
def toValue : Scalar → Value
  | text t => .text t
  | int n => .int n
  | float x => .float x
  | dateTime t => .dateTime t

/-- The scalar that a value is, if it is one. -/
def ofValue? : Value → Option Scalar
  | .text t => some (text t)
  | .int n => some (int n)
  | .float x => some (float x)
  | .dateTime t => some (dateTime t)
  | _ => none

/-- The text of a scalar inside a token. -/
def literal : Scalar → Except Fault Text
  | text t => .ok t
  | int n => writeNumber (.int n)
  | float x => writeNumber (.float x)
  | dateTime t =>
    match dateTimeText? t with
    | some s => .ok s
    | none => .error .instantOutOfRange

end Scalar

/-- The scalar that a value is, provided that its kind is accepted. -/
def accept (accepted : List Kind) (v : Value) : Except Fault Scalar :=
  match Scalar.ofValue? v with
  | some s => if accepted.contains s.kind then .ok s else .error (.wrongKind accepted v.typeName)
  | none => .error (.wrongKind accepted v.typeName)

/-- The elements of a value that is a sequence. -/
def elements? : Value → Option (List Value)
  | .list items | .tuple items => some items
  | _ => none

/-- The text of an operand. All elements of a sequence are checked before the first is written. -/
def encode (accepted : List Kind) (operand : Value) : Except Fault Text :=
  match elements? operand with
  | some items =>
    if accepted.contains .sequence then do
      let scalars ← items.mapM (accept (accepted.filter (· ≠ .sequence)))
      let texts ← scalars.mapM Scalar.literal
      return Text.joined "," texts
    else .error (.wrongKind accepted operand.typeName)
  | none => do
    let s ← accept accepted operand
    s.literal

end TableClient.Query
