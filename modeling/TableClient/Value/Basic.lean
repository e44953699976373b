import TableClient.Binary64.Basic
import TableClient.Calendar
import TableClient.Keyed

/-!
# Values

The values that queries, settings, log entries and request bodies are made of. A record is a list
of entries in insertion order; its keys are values, mostly texts. A query that is being put
together is a value too, so that it can be handed to an operation in place of its text.

## Main definitions

* `TableClient.Value` — the values.
* `TableClient.Value.typeName` — the name of a value's type, as messages give it.
* `TableClient.Value.isTruthy` — whether a value counts as set.
* `TableClient.Value.elements?` — what a value yields when it is gone through.
* `TableClient.Value.isHashable` — whether a value can be looked up in a table.
* `TableClient.Entries`, `TableClient.Members` — values by key, and by name.
* `TableClient.maxNesting` — how deep values that are read and written may be nested.
-/

set_option relaxedAutoImplicit false
set_option autoImplicit false

namespace TableClient

/-- A value. -/
inductive Value where
  | null
  | bool (b : Bool)
  | int (n : Int)
  | float (x : Binary64)
  | text (t : Text)
  | list (items : List Value)
  | tuple (items : List Value)
  | record (entries : List (Value × Value))
  | dateTime (t : DateTime)
  | date (d : Date)
  | bytes (bs : List UInt8)
  | set (items : List Value)
  | range (stop : Int)
  /-- A query being put together: its tokens, and the field that conditions apply to. -/
  | query (tokens : List Text) (field : Value)

/-- The entries of a record, in order. -/
abbrev Entries := Keyed Value Value

/-- Values with a name each, in order, as arguments and details are given. -/
abbrev Members := Named Value

instance : Inhabited Value := ⟨.null⟩

/-- The number of levels to which values may be nested where they are read, shown or written. It is
what the limit on recursion leaves. -/
def maxNesting : Nat := 985

namespace Value

/-- The record of named values. -/
def ofMembers (members : Members) : Value := record (members.map fun (name, v) => (text name, v))

/-- The name of a value's type. -/
def typeName : Value → String
  | null => "NoneType"
  | bool _ => "bool"
  | int _ => "int"
  | float _ => "float"
  | text _ => "str"
  | list _ => "list"
  | tuple _ => "tuple"
  | record _ => "dict"
  | dateTime _ => "datetime"
  | date _ => "date"
  | bytes _ => "bytes"
  | set _ => "set"
  | range _ => "range"
  | query _ _ => "QueryBuilder"

/-- Whether a value counts as set: null, false, zero and everything empty do not. -/
def isTruthy : Value → Bool
  | null => false
  | bool b => b
  | int n => n != 0
  | float x => !x.isZero
  | text t => !t.isEmpty
  | list items | tuple items | set items => !items.isEmpty
  | record entries => !entries.isEmpty
  | dateTime _ | date _ => true
  | bytes bs => !bs.isEmpty
  | range stop => 0 < stop
  | query _ _ => true

/-- The values that a value yields when it is gone through: the items of a sequence or set, the
code points of a text, the keys of a record, the bytes and numbers of bytes and ranges. -/
def elements? : Value → Option (List Value)
  | list items | tuple items | set items => some items
  | text t => some (t.points.map fun p => text ⟨[p]⟩)
  | record entries => some (entries.map (·.1))
  | bytes bs => some (bs.map fun b => int b.toNat)
  | range stop => some ((List.range stop.toNat).map fun (n : Nat) => int n)
  | _ => none

mutual

/-- Whether a value can be looked up in a table. Values that can change, and tuples that contain
one, cannot; a query is looked up by its identity. -/
def isHashable : Value → Bool
  | list _ | record _ | set _ => false
  | tuple items => allHashable items
  | _ => true

/-- Whether all of several values can be looked up. -/
def allHashable : List Value → Bool
  | [] => true
  | v :: vs => isHashable v && allHashable vs

end

/-- The text that a value is, if it is one. -/
def text? : Value → Option Text
  | text t => some t
  | _ => none

/-- The members of a value that is a record with texts as keys. -/
def members? : Value → Option Members
  | record entries => entries.mapM fun (key, v) => key.text?.map (·, v)
  | _ => none

end Value

end TableClient
