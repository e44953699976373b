import TableClient.Query.Draft

/-!
# Steps by name

The names under which the steps of a query are published, and the step that a name and a list of
arguments stand for. A name takes a fixed number of arguments of any kind; whether they are of use
shows when the step is taken. Steps on relative conditions that were begun are numbered instead,
and have no name here.

## Main definitions

* `TableClient.Query.Naming` — what a name makes of arguments.
* `TableClient.Query.namings` — the names with what they stand for.
-/

set_option relaxedAutoImplicit false
set_option autoImplicit false

namespace TableClient.Query

/-- What a name makes of arguments: a step, unless there are too few or too many of them. -/
abbrev Naming := List Value → Option Call

namespace Naming

/-- The name of a step without arguments. -/
def bare (call : Call) : Naming
  | [] => some call
  | _ => none

/-- The name of a step with one argument. -/
def unary (call : Value → Call) : Naming
  | [v] => some (call v)
  | _ => none

/-- The name of a step with two arguments. -/
def binary (call : Value → Value → Call) : Naming
  | [v, w] => some (call v w)
  | _ => none

/-- The name of a step with three arguments. -/
def ternary (call : Value → Value → Value → Call) : Naming
  | [u, v, w] => some (call u v w)
  | _ => none

/-- The name of a test without an operand. -/
def test (t : BareTest) : Naming := bare (.condition (.bare t))

/-- The name of a test of a text. -/
def textTest (t : TextTest) : Naming := unary fun v => .condition (.textual t v)

/-- The name of a comparison. -/
def compare (c : Comparison) : Naming := unary fun v => .condition (.compare c v)

/-- The name of a condition with one operand that may be negated. -/
def negatable (condition : Bool → Value → Condition) (negated : Bool) : Naming :=
  unary fun v => .condition (condition negated v)

end Naming

/-- The names of the steps, with what they stand for. -/
def namings : Keyed String Naming :=
  [("field", .unary .field), ("order_descending", .bare (.order true)),
   ("order_ascending", .bare (.order false)), ("starts_with", .textTest .startsWith),
   ("ends_with", .textTest .endsWith), ("contains", .textTest .contains),
   ("does_not_contain", .textTest .lacks), ("is_empty", .test .empty),
   ("is_not_empty", .test .notEmpty), ("is_empty_string", .test .emptyString),
   ("is_anything", .test .anything), ("equals", .negatable .equality false),
   ("not_equals", .negatable .equality true), ("is_one_of", .negatable .membership false),
   ("is_none_of", .negatable .membership true), ("greater_than", .compare .above),
   ("greater_than_or_is", .compare .atLeast), ("less_than", .compare .below),
   ("less_than_or_is", .compare .atMost),
   ("between", .binary fun v w => .condition (.between v w)),
   ("is_same_as", .textTest .sameAs), ("is_not_same_as", .textTest .differsFrom),
   ("greater_than_field", .textTest .aboveField),
   ("greater_than_or_equal_to_field", .textTest .atLeastField),
   ("less_than_field", .textTest .belowField),
   ("less_than_or_equal_to_field", .textTest .atMostField),
   ("since", .binary fun v w => .condition (.ago false v w)),
   ("not_since", .binary fun v w => .condition (.ago true v w)),
   ("is_more_than", .binary (.relative false)), ("is_less_than", .binary (.relative true)),
   ("new_relative", .ternary .relativeParts), ("and_", .bare (.join .and)),
   ("or_", .bare (.join .or)), ("nq", .bare (.join .newQuery)), ("build", .bare .build)]

end TableClient.Query
