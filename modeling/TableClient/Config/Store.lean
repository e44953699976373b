import TableClient.Config.Loading

/-!
# Trees in a store

Merging and setting as they act on records that are held in a store and referred to by address.

Merging makes a new record of every record of the lower tree and takes all other values over as they
are. So a record of the upper tree that meets no record below is shared between the upper tree and
the result, and setting a value inside it changes both. A record that lies in a list is shared too.

Setting goes through records, one name of the path after the other, and makes the records that are
missing on the way before it knows whether the path can be followed. What was made so far stays when
it cannot.

Lists are never changed in place, so they are kept by their items.

## Main definitions

* `TableClient.Config.Store`, `TableClient.Config.Slot` — records by address, and their entries.
* `TableClient.Config.Store.load`, `TableClient.Config.Store.read` — values into and out of a store.
* `TableClient.Config.Store.merge` — one record laid over another, as a new record.
* `TableClient.Config.Store.setAt` — setting the value at a path, in place.
* `TableClient.Config.Store.getAt` — the value at a path, or a default.
* `TableClient.Config.Layered` — two trees in a store, with the one laid over the other.
-/

set_option relaxedAutoImplicit false
set_option autoImplicit false

namespace TableClient.Config

/-- The place of a record in a store. -/
abbrev Address := Nat

/-- What an entry or an item holds: a value that is neither a record nor a list, the items of a
list, or a record of the store. -/
inductive Slot where
  | leaf (v : Value)
  | list (items : List Slot)
  | ref (a : Address)

/-- The entries of a record in a store. -/
abbrev Slots := Keyed Value Slot

/-- Records by address. -/
structure Store where
  records : List Slots

namespace Store

/-- The store without records. -/
def empty : Store := ⟨[]⟩

/-- The entries of the record that a slot holds, if it holds one. -/
def entries? (s : Store) : Slot → Option Slots
  | .ref a => s.records[a]?
  | _ => none

/-- Adds a record. -/
def alloc (entries : Slots) : StateM Store Slot :=
  modifyGet fun s => (.ref s.records.length, ⟨s.records ++ [entries]⟩)

/-! ### Values into and out of a store -/

mutual

/-- Puts a value into the store; each of its records gets an address of its own. -/
def load : Value → StateM Store Slot
  | .record entries => do alloc (← loadEntries entries)
  | .list items => do return .list (← loadItems items)
  | v => return .leaf v

/-- Puts the entries of a record into the store. -/
def loadEntries : List (Value × Value) → StateM Store Slots
  | [] => return []
  | (key, v) :: rest => do
    let slot ← load v
    let slots ← loadEntries rest
    return (key, slot) :: slots

/-- Puts the items of a list into the store. -/
def loadItems : List Value → StateM Store (List Slot)
  | [] => return []
  | v :: rest => do
    let slot ← load v
    let slots ← loadItems rest
    return slot :: slots

end

mutual

/-- The value of a slot, given those of the records. -/
def valueOf (recordAt : Address → Value) : Slot → Value
  | .leaf v => v
  | .list items => .list (valuesOf recordAt items)
  | .ref a => recordAt a

/-- The values of several slots, given those of the records. -/
def valuesOf (recordAt : Address → Value) : List Slot → List Value
  | [] => []
  | slot :: rest => valueOf recordAt slot :: valuesOf recordAt rest

end

/-- The value of the record at an address, with the records inside it down to the given depth. -/
def recordTo (s : Store) : Nat → Address → Value
  | 0, _ => .record []
  | depth + 1, a =>
    .record ((s.records.getD a []).map fun (key, slot) => (key, valueOf (recordTo s depth) slot))

/-- The value of a slot. Records of a store that contain each other without a cycle do so no deeper
than there are records. -/
def read (s : Store) (slot : Slot) : Value := valueOf (s.recordTo s.records.length) slot

/-! ### Merging -/

section Merging

variable (mergeInner : Slots → Slots → StateM Store Slot)

/-- A copy of what a slot holds: a record is copied, as if nothing were laid over it, and other
values are taken over. -/
def copySlot (slot : Slot) : StateM Store Slot := do
  match (← getThe Store).entries? slot with
  | some entries => mergeInner entries []
  | none => return slot

/-- A copy of the entries of a record. -/
def copyEntries : Slots → StateM Store Slots
  | [] => return []
  | (key, slot) :: rest => do
    let copy ← copySlot mergeInner slot
    return (key, copy) :: (← copyEntries rest)

/-- What a slot holds, laid over what another one holds if there is one: two records are merged, and
elsewhere the upper value is taken over. -/
def laySlot (low : Option Slot) (slot : Slot) : StateM Store Slot := do
  let s ← getThe Store
  match low.bind s.entries?, s.entries? slot with
  | some low, some high => mergeInner low high
  | _, _ => return slot

/-- Entries laid over others, one after the other. -/
def layEntries : Slots → Slots → StateM Store Slots
  | result, [] => return result
  | result, (key, slot) :: rest => do
    let laid ← laySlot mergeInner (Keyed.get? result key) slot
    layEntries (Keyed.insert result key laid) rest

end Merging

/-- The entries laid over a copy of those of a lower record, as a new record, with the records
inside it down to the given depth. -/
def mergeTo : Nat → Slots → Slots → StateM Store Slot
  | 0, _, _ => alloc []
  | depth + 1, base, upper => do
    let copy ← copyEntries (mergeTo depth) base
    alloc (← layEntries (mergeTo depth) copy upper)

/-- One record laid over another, as a new record. -/
def merge (base upper : Slot) : StateM Store Slot := do
  let s ← getThe Store
  mergeTo s.records.length ((s.entries? base).getD []) ((s.entries? upper).getD [])

/-! ### Following and setting -/

/-- What is found under a key. Only records have something under a text. -/
def item (s : Store) (current : Slot) (key : Text) : Except Fault Slot :=
  match s.entries? current with
  | none => .error .unusableValue
  | some entries => (Keyed.get? entries (.text key)).elim (.error .noSuchItem) .ok

/-- What a path leads to. -/
def follow (s : Store) : Slot → List Text → Except Fault Slot
  | current, [] => .ok current
  | current, key :: rest => do s.follow (← s.item current key) rest

/-- The value at a path, or the default when the path leads nowhere. -/
def getAt (s : Store) (root : Slot) (path : List Text) (default : Value) : Value :=
  match s.follow root path with
  | .ok slot => s.read slot
  | .error _ => default

/-- Whether a slot holds a list item that is a text. -/
def isText (key : Text) : Slot → Bool
  | .leaf (.text t) => t == key
  | _ => false

/-- Whether a text is in a value: among the keys of a record, among the items of a list, or as a
part of a text. There are values of which this cannot be asked. -/
def contains (s : Store) (current : Slot) (key : Text) : Except Fault Bool :=
  match s.entries? current, current with
  | some entries, _ => .ok (Keyed.has entries (.text key))
  | none, .list items => .ok (items.any (isText key))
  | none, .leaf (.text t) => .ok (t.hasPart key)
  | none, .leaf (.tuple items) | none, .leaf (.set items) => .ok (items.any (· == .text key))
  | none, .leaf (.range _) => .ok false
  | none, _ => .error .unusableValue

/-- A change of a store. What was done before a change is refused stays. -/
abbrev Change := ExceptT Fault (StateM Store)

/-- Sets an entry in place. Only records take an entry by a text. -/
def setItem (current : Slot) (key : Text) (slot : Slot) : Change Unit :=
  match current with
  | .ref a => modify fun s =>
    ⟨s.records.modify a fun entries => Keyed.insert entries (.text key) slot⟩
  | _ => throw .unusableValue

/-- Goes on to what is found under a key, which is a new record if there was nothing. -/
def enter (current : Slot) (key : Text) : Change Slot := do
  unless ← liftExcept ((← getThe Store).contains current key) do
    setItem current key (← alloc [])
  liftExcept ((← getThe Store).item current key)

/-- Sets the value at a path in place. Missing records are made on the way. -/
def setAt : Slot → List Text → Slot → Change Unit
  | _, [], _ => throw .unusableValue
  | current, [key], slot => setItem current key slot
  | current, key :: next :: rest, slot => do setAt (← enter current key) (next :: rest) slot

end Store

/-! ### Layers in a store -/

/-- Two trees in a store, and the one laid over the other. -/
structure Layered where
  store : Store
  base : Slot
  upper : Slot
  merged : Slot

/-- Puts two trees into a store and lays the second one over the first. -/
def layered (base upper : Entries) : Layered :=
  let (base, s) := (Store.load (.record base)).run .empty
  let (upper, s) := (Store.load (.record upper)).run s
  let (merged, s) := (Store.merge base upper).run s
  ⟨s, base, upper, merged⟩

/-- Sets a value in the merged tree. -/
def Layered.set (l : Layered) (path : List Text) (v : Value) : Except Fault Unit × Layered :=
  let (slot, s) := (Store.load v).run l.store
  let (result, s) := (Store.setAt l.merged path slot).run s
  (result, { l with store := s })

/-- What setting a value in a merged tree leaves behind. -/
structure SharedEdit where
  succeeded : Bool
  merged : Value
  base : Value
  upper : Value

/-- Lays one tree over another, sets a value in the result, and shows all three trees afterwards. -/
def editMerged (base upper : Entries) (path : List Text) (v : Value) : SharedEdit :=
  let (result, l) := (layered base upper).set path v
  ⟨result.isOk, l.store.read l.merged, l.store.read l.base, l.store.read l.upper⟩

end TableClient.Config
