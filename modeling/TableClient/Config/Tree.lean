import TableClient.Text.Split
import TableClient.Value.Key

/-!
# Trees of settings

Settings form a tree of records, and a setting is named by the path of names that leads to it,
written with dots; other keys than texts are never on a path. Looking up a path goes through
records only. Setting a value at a path creates
the records that are missing on the way and refuses to go through anything else. Merging lays one
tree over another: where both have a record the two are merged, and elsewhere the upper one wins.

## Main definitions

* `TableClient.Config.pathOf` — the names of a dotted path.
* `TableClient.Config.lookup?` — the value at a path.
* `TableClient.Config.setAt?` — a tree with the value at a path set.
* `TableClient.Config.merge` — one tree laid over another.
-/

set_option relaxedAutoImplicit false
set_option autoImplicit false

namespace TableClient.Config

/-- The names of a dotted path; there is always at least one. -/
def pathOf (dotted : Text) : List Text := dotted.split '.'

/-- The value that a path leads to from a value. -/
def valueAt? : Value → List Text → Option Value
  | v, [] => some v
  | .record es, name :: rest => (Keyed.get? es (.text name)).bind fun v => valueAt? v rest
  | _, _ :: _ => none

/-- The value at a path of a tree. -/
def lookup? (tree : Entries) (path : List Text) : Option Value := valueAt? (.record tree) path

/-- The tree with the value at a path set, unless the path goes through a value that is no
record. -/
def setAt? : Entries → List Text → Value → Option Entries
  | _, [], _ => none
  | es, [name], v => some (es.insert (.text name) v)
  | es, name :: next :: rest, v =>
    match es.get? (.text name) with
    | none => (setAt? [] (next :: rest) v).map fun inner => es.insert (.text name) (.record inner)
    | some (.record inner) =>
      (setAt? inner (next :: rest) v).map fun inner => es.insert (.text name) (.record inner)
    | some _ => none

mutual

/-- A value laid over another one: two records are merged, and otherwise the upper one wins. -/
def overlay : Value → Option Value → Value
  | .record upper, some (.record base) => .record (mergeInto base upper)
  | v, _ => v

/-- The entries with others laid over them, one after the other. -/
def mergeInto : Entries → List (Value × Value) → Entries
  | base, [] => base
  | base, (key, v) :: rest =>
    mergeInto (Keyed.insert base key (overlay v (Keyed.get? base key))) rest

end

/-- One tree laid over another. -/
def merge (base upper : Entries) : Entries := mergeInto base upper

end TableClient.Config
