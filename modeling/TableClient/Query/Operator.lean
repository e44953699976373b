/-!
# Operators of the query language

An encoded query is a sequence of tokens without separators: conditions, orderings and the join
markers between them. Every condition and ordering carries one operator tag.

## Main definitions

* `TableClient.Query.Operator`, `TableClient.Query.Operator.tag` — operators and their tags.
* `TableClient.Query.Join`, `TableClient.Query.Join.tag` — join markers and their text.
* `Operator.label`, `Join.label` — the names under which they are listed.
-/

set_option relaxedAutoImplicit false
set_option autoImplicit false

namespace TableClient.Query

/-- An operator of a condition or ordering. -/
inductive Operator where
  | equals
  | notEquals
  | greaterThan
  | lessThan
  | greaterOrEqual
  | lessOrEqual
  | contains
  | notContains
  | startsWith
  | endsWith
  | isIn
  | notIn
  | isEmpty
  | isNotEmpty
  | emptyString
  | between
  | anything
  | sameAs
  | differentFrom
  | greaterThanField
  | greaterOrEqualField
  | lessThanField
  | lessOrEqualField
  | relativeAfter
  | relativeBefore
  | moreThan
  | lessThanRelative
  | orderBy
  | orderByDescending
deriving DecidableEq

/-- The text of an operator inside a token. -/
def Operator.tag : Operator → String
  | equals => "="
  | notEquals => "!="
  | greaterThan => ">"
  | lessThan => "<"
  | greaterOrEqual => ">="
  | lessOrEqual => "<="
  | contains => "LIKE"
  | notContains => "NOTLIKE"
  | startsWith => "STARTSWITH"
  | endsWith => "ENDSWITH"
  | isIn => "IN"
  | notIn => "NOT IN"
  | isEmpty => "ISEMPTY"
  | isNotEmpty => "ISNOTEMPTY"
  | emptyString => "EMPTYSTRING"
  | between => "BETWEEN"
  | anything => "ANYTHING"
  | sameAs => "SAMEAS"
  | differentFrom => "NSAMEAS"
  | greaterThanField => "GT_FIELD"
  | greaterOrEqualField => "GT_OR_EQUALS_FIELD"
  | lessThanField => "LT_FIELD"
  | lessOrEqualField => "LT_OR_EQUALS_FIELD"
  | relativeAfter => "RELATIVEGT"
  | relativeBefore => "RELATIVELT"
  | moreThan => "MORETHAN"
  | lessThanRelative => "LESSTHAN"
  | orderBy => "ORDERBY"
  | orderByDescending => "ORDERBYDESC"

/-- The name under which an operator is listed. -/
def Operator.label : Operator → String
  | equals => "EQUALS"
  | notEquals => "NOT_EQUALS"
  | greaterThan => "GREATER_THAN"
  | lessThan => "LESS_THAN"
  | greaterOrEqual => "GREATER_OR_EQUAL"
  | lessOrEqual => "LESS_OR_EQUAL"
  | contains => "CONTAINS"
  | notContains => "NOT_CONTAINS"
  | startsWith => "STARTS_WITH"
  | endsWith => "ENDS_WITH"
  | isIn => "IN"
  | notIn => "NOT_IN"
  | isEmpty => "IS_EMPTY"
  | isNotEmpty => "IS_NOT_EMPTY"
  | emptyString => "EMPTY_STRING"
  | between => "BETWEEN"
  | anything => "ANYTHING"
  | sameAs => "SAME_AS"
  | differentFrom => "DIFFERENT_FROM"
  | greaterThanField => "GT_FIELD"
  | greaterOrEqualField => "GT_OR_EQUALS_FIELD"
  | lessThanField => "LT_FIELD"
  | lessOrEqualField => "LT_OR_EQUALS_FIELD"
  | relativeAfter => "RELATIVE_GT"
  | relativeBefore => "RELATIVE_LT"
  | moreThan => "MORE_THAN"
  | lessThanRelative => "LESS_THAN_RELATIVE"
  | orderBy => "ORDER_BY"
  | orderByDescending => "ORDER_BY_DESC"

/-- All operators, in the order in which the language lists them. -/
def Operator.all : List Operator :=
  [equals, notEquals, greaterThan, lessThan, greaterOrEqual, lessOrEqual, contains, notContains,
   startsWith, endsWith, isIn, notIn, isEmpty, isNotEmpty, emptyString, between, anything, sameAs,
   differentFrom, greaterThanField, greaterOrEqualField, lessThanField, lessOrEqualField,
   relativeAfter, relativeBefore, moreThan, lessThanRelative, orderBy, orderByDescending]

/-- A marker that joins the condition before it to the one after it. -/
inductive Join where
  | and
  | or
  /-- Starts a new query whose results are added to those of the query before it. -/
  | newQuery
deriving DecidableEq

/-- The text of a join marker, which is a token by itself. -/
def Join.tag : Join → String
  | and => "^"
  | or => "^OR"
  | newQuery => "^NQ"

/-- The name under which a join marker is listed. -/
def Join.label : Join → String
  | and => "AND"
  | or => "OR"
  | newQuery => "NQ"

/-- All join markers. -/
def Join.all : List Join := [and, or, newQuery]

end TableClient.Query
