import TableClient.Value.Basic

/-!
# Values as keys

Which values count as one key of a record, and as one item of a set. Numbers count by their value,
whatever their type: one, the floating-point number one and true are the same key. Date-times with
an offset count by the instant, ranges by what they hold, and tuples item by item.

A number that is not a number is the same key as itself, so that every key of a record is found
again. One that is given anew is another one, which only shows when an entry or item is added.

A set keeps the first of several items that are the same. It yields integers in ascending order,
and other items as they were given.

## Main definitions

* `TableClient.Value.same` — whether two values are the same key.
* `TableClient.Value.hasNotANumber` — whether a value is new whenever it is given.
* `TableClient.Value.setEntry` — setting an entry of a record.
* `TableClient.Value.setOf` — the set of given items.
-/

set_option relaxedAutoImplicit false
set_option autoImplicit false

namespace TableClient

/-- Whether two date-times are the same: the same instant when both have an offset, and the same
date and time when neither has. -/
def DateTime.same (s t : DateTime) : Bool :=
  s.offset.isSome == t.offset.isSome && s.utcSecond == t.utcSecond &&
    s.time.microsecond == t.time.microsecond

namespace Value

/-- The integer that a value counts as, if it counts as one. -/
def integer? : Value → Option Int
  | bool b => some (if b then 1 else 0)
  | int n => some n
  | float x => x.integer?
  | _ => none

/-- Whether two numbers have the same value. -/
def sameNumber (v w : Value) : Bool :=
  match v.integer?, w.integer? with
  | some m, some n => m == n
  | none, none =>
    match v, w with
    | float x, float y => x == y
    | _, _ => false
  | _, _ => false

mutual

/-- Whether two values are the same key. Values that cannot be keys are never the same, and neither
are queries, which only count as themselves. -/
def same : Value → Value → Bool
  | null, null => true
  | text s, text t => s == t
  | tuple vs, tuple ws => allSame vs ws
  | dateTime s, dateTime t => s.same t
  | date d, date e => d == e
  | bytes bs, bytes cs => bs == cs
  | range m, range n => m.toNat == n.toNat
  | v, w => sameNumber v w

/-- Whether two lists of values are the same, item by item. -/
def allSame : List Value → List Value → Bool
  | [], [] => true
  | v :: vs, w :: ws => same v w && allSame vs ws
  | _, _ => false

end

instance : BEq Value := ⟨same⟩

mutual

/-- Whether a value is, or has as an item, a number that is not a number. -/
def hasNotANumber : Value → Bool
  | float .notANumber => true
  | tuple items => anyNotANumber items
  | _ => false

/-- Whether one of several values is, or has as an item, a number that is not a number. -/
def anyNotANumber : List Value → Bool
  | [] => false
  | v :: vs => hasNotANumber v || anyNotANumber vs

end

/-- The entries with one set by a key. A key that has a number that is not a number is always new,
since it is the same as no other. -/
def setEntry (entries : Entries) (key v : Value) : Entries :=
  if key.hasNotANumber then entries ++ [(key, v)] else entries.insert key v

/-- The items with one added, unless there is the same already. -/
def addItem (items : List Value) (v : Value) : List Value :=
  if items.any (· == v) && !v.hasNotANumber then items else items ++ [v]

/-- The items in the order in which a set yields them. -/
def setOrder (items : List Value) : List Value :=
  match items.mapM integer? with
  | some numbers => ((numbers.zip items).mergeSort fun a b => a.1 ≤ b.1).map (·.2)
  | none => items

/-- The set of the given items. -/
def setOf (items : List Value) : Value := set (setOrder (items.foldl addItem []))

/-- The entry of a name in a record. -/
def member? (v : Value) (name : Text) : Option Value :=
  match v with
  | record entries => Keyed.get? entries (text name)
  | _ => none

end Value

end TableClient
