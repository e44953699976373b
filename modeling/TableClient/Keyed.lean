import TableClient.Text.Basic

/-!
# Keyed entries

Lists of entries with a key each, in insertion order. The operations keep keys distinct when they
are: an entry is replaced where it stands and keeps its first key, and a new one is added at the
end. Which keys count as the same is up to their equality test. Entries are mostly keyed by name.

## Main definitions

* `TableClient.Keyed`, `TableClient.Named` — lists of entries by key, and by name.
* `TableClient.Keyed.get?`, `TableClient.Keyed.has`, `TableClient.Keyed.keys` — reading.
* `TableClient.Keyed.insert`, `TableClient.Keyed.insertAll`, `TableClient.Keyed.erase` — changing.
-/

set_option relaxedAutoImplicit false
set_option autoImplicit false

namespace TableClient

/-- Entries with a key each, in order. -/
abbrev Keyed (κ α : Type) := List (κ × α)

/-- Entries with a name each, in order. -/
abbrev Named (α : Type) := Keyed Text α

namespace Keyed

variable {κ α : Type}

/-- The keys, in order. -/
def keys (es : Keyed κ α) : List κ := es.map (·.1)

variable [BEq κ]

/-- The entry of a key. -/
def get? : Keyed κ α → κ → Option α
  | [], _ => none
  | (k, a) :: es, key => if k == key then some a else get? es key

/-- Whether there is an entry of a key. -/
def has (es : Keyed κ α) (key : κ) : Bool := (es.get? key).isSome

/-- The entries with one set: replaced where it stands, or added at the end. -/
def insert : Keyed κ α → κ → α → Keyed κ α
  | [], key, a => [(key, a)]
  | (k, b) :: es, key, a => if k == key then (k, a) :: es else (k, b) :: insert es key a

/-- The entries with others set on top of them, one after the other. -/
def insertAll (es others : Keyed κ α) : Keyed κ α :=
  others.foldl (fun acc e => acc.insert e.1 e.2) es

/-- The entries without the one of a key. -/
def erase (es : Keyed κ α) (key : κ) : Keyed κ α := es.filter fun e => !(e.1 == key)

/-- The entries with others added for the keys that are not yet there. -/
def insertMissing (es others : Keyed κ α) : Keyed κ α :=
  others.foldl (fun acc e => if acc.has e.1 then acc else acc.insert e.1 e.2) es

end Keyed

end TableClient
