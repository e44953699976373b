import TableClient.Text.Basic

/-!
# Why a step of a query is refused

## Main definitions

* `TableClient.Query.Kind` — the kinds of values that operations accept.
* `TableClient.Query.Fault` — the reasons, with `Fault.message` their wording, and
  `Fault.className` the class of errors under which they are reported.
-/

set_option relaxedAutoImplicit false
set_option autoImplicit false

namespace TableClient.Query

/-- A kind of values that an operation can accept. Truth values are of no kind. -/
inductive Kind where
  | text
  | number
  | dateTime
  | sequence
deriving DecidableEq

namespace Kind

/-- The name of a kind in messages. -/
def name : Kind → String
  | text => "str"
  | number => "number"
  | dateTime => "datetime"
  | sequence => "sequence"

/-- The name under which a kind is listed. -/
def label : Kind → String
  | text => "TEXT"
  | number => "NUMBER"
  | dateTime => "DATETIME"
  | sequence => "SEQUENCE"

/-- All kinds, in the order in which messages list them. -/
def all : List Kind := [text, number, dateTime, sequence]

/-- Texts only. -/
def textOnly : List Kind := [text]

/-- Texts and numbers. -/
def textOrNumber : List Kind := [text, number]

/-- The kinds with an order. -/
def comparable : List Kind := [text, number, dateTime]

/-- Texts, numbers, and sequences of them. -/
def textOrNumberList : List Kind := [text, number, sequence]

/-- The names of the accepted kinds. -/
def describe (accepted : List Kind) : String :=
  ", ".intercalate ((all.filter (accepted.contains ·)).map name)

end Kind

/-- The units of time that a two-step relative condition accepts. -/
def relativeUnits : List Text := ["year", "month", "week", "day", "hour"]

/-- Why a step of a query is refused. Types of offending values are given by name. -/
inductive Fault where
  /-- A relative condition is completed a second time. -/
  | alreadyCompleted
  /-- A condition or ordering needs a field and there is none. -/
  | missingField
  /-- A value is of a kind that the operation does not accept. -/
  | wrongKind (accepted : List Kind) (found : String)
  /-- The bounds of a range are not of one ordered kind. -/
  | unevenBounds (start finish : String)
  /-- An equality is asked for with neither a text, a number nor a sequence. -/
  | notComparable (found : String)
  /-- A membership is asked for without a sequence. -/
  | notSequence (found : String)
  /-- A relative condition needs a number and the name of a unit. -/
  | wrongDistance (amount unit : String)
  /-- A two-step relative condition does not know the unit. -/
  | unknownUnit (unit : Text)
  /-- A query without tokens is built. -/
  | emptyQuery
  /-- A date-time lies outside the years 1 to 9999 in UTC. -/
  | instantOutOfRange
  /-- An integer has more digits than a numeral may have. -/
  | numeralTooLong
  /-- An ordering is asked for on a field that is not a text. -/
  | unorderableField
  /-- A relative condition is completed with a quantifier that names no operator. -/
  | unknownQuantifier
  /-- The quantifier of a relative condition is neither a text nor bytes. -/
  | quantifierNotText
  /-- There is no relative condition of the given number. -/
  | noSuchRelative
deriving DecidableEq

/-- The wording of a reason. -/
def Fault.message : Fault → Text
  | alreadyCompleted => "Relative date condition has already been completed."
  | missingField => "Conditions requires a field."
  | wrongKind accepted found =>
    let lead := if 1 < accepted.length then "Expected one of: " else "Expected: "
    "Invalid type passed. " ++ lead ++ Kind.describe accepted ++ "; found: " ++ found
  | unevenBounds start finish =>
    "Expected two values of the same type, one of: " ++ Kind.describe Kind.comparable ++
      "; found start_value: " ++ start ++ ", end_value: " ++ finish
  | notComparable found => "Expected str, number or list type, found: " ++ found
  | notSequence found => "Expected list type, found: " ++ found
  | wrongDistance amount unit => "Expected (number, str); got (" ++ amount ++ ", " ++ unit ++ ")"
  | unknownUnit unit =>
    "Expected unit to be one of: " ++ Text.joined ", " relativeUnits ++ "; got: " ++ unit
  | emptyQuery => "At least one condition is required in query."
  | instantOutOfRange => "the date-time lies outside the calendar"
  | numeralTooLong => "the integer has too many digits"
  | unorderableField => "an ordering needs a text as field"
  | unknownQuantifier => "the quantifier names no operator"
  | quantifierNotText => "the quantifier is neither a text nor bytes"
  | noSuchRelative => "there is no such relative condition"

/-- The class of errors under which a reason is reported. -/
def Fault.className : Fault → String
  | alreadyCompleted => "QueryError"
  | missingField => "QueryMissingFieldError"
  | wrongKind .. | unevenBounds .. | notComparable .. | notSequence .. | wrongDistance ..
  | unknownUnit .. => "QueryTypeError"
  | emptyQuery => "QueryEmptyError"
  | instantOutOfRange => "OverflowError"
  | unorderableField => "TypeError"
  | unknownQuantifier | numeralTooLong => "ValueError"
  | quantifierNotText => "AttributeError"
  | noSuchRelative => "IndexError"

end TableClient.Query
