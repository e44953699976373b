import TableClient.Config.Loading
import TableClient.Value.Shown

/-!
# Access to settings

Questions about loaded settings and changes to them. Settings are asked for by dotted path, with a
default for paths that lead nowhere; a setting that is there but null is not replaced by the
default. Secrets are asked for by name.

## Main definitions

* `TableClient.Config.get` — the value of a setting.
* `TableClient.Config.service`, `scope`, `timeout`, `logLevel`, `logDirectory` — the five
  settings with a default of their own.
* `TableClient.Config.secret`, `requireSecrets` — secrets.
* `TableClient.Config.set`, `assign` — changes.
-/

set_option relaxedAutoImplicit false
set_option autoImplicit false

namespace TableClient.Config

/-- The text of a value that must be one. Bytes are refused for a reason of their own. -/
def requireText : Value → Except Fault Text
  | .text t => .ok t
  | .bytes _ => .error .unusableValue
  | _ => .error .notText

/-- The value that the text of a variable stands for, given as a value. -/
def convertValue (v : Value) : Except Fault Value := (requireText v).map convert

/-- The value of a setting, or the default when its path leads nowhere. -/
def get (c : Config) (path : Text) (default : Value) : Value :=
  (lookup? c.tree (pathOf path)).getD default

/-- The value of a setting whose path is given as a value. -/
def getValue (c : Config) (path default : Value) : Except Fault Value :=
  (requireText path).map fun p => c.get p default

/-- The name of the service that is called. -/
def service (c : Config) : Value := c.get "servicenow.api_name" (.text defaultService)

/-- The namespace of the service. -/
def scope (c : Config) : Value := c.get "servicenow.namespace" (.text defaultScope)

/-- The seconds that a request may take. -/
def timeout (c : Config) : Value := c.get "servicenow.timeout" (.int defaultTimeout)

/-- The level of the log. -/
def logLevel (c : Config) : Value := c.get "logging.level" (.text defaultLevel)

/-- The setting of the directory of the log. -/
def directorySetting (c : Config) : Value := c.get "logging.dir" (.text defaultDirectory)

/-- The directory of the log, as text whatever the value. -/
def logDirectory (c : Config) : Text := c.directorySetting.shown

/-- Whether there is a secret of a name. -/
def hasSecret (c : Config) (name : Value) : Except Fault Bool :=
  if name.isHashable then
    .ok (match name with
      | .text s => c.secrets.has s
      | _ => false)
  else .error .unusableValue

/-- The secret of a name, or null when it is missing and need not be there. -/
def secret (c : Config) (name : Value) (required : Bool) : Except Fault Value := do
  if ← c.hasSecret name then
    match (name.text?.bind c.secrets.get?) with
    | some s => return .text s
    | none => return .null
  else if required then throw (.missingSecret name.shown)
  else return .null

/-- The names among those given that have no secret, in order. -/
def missingAmong (c : Config) : List Value → Except Fault (List Value)
  | [] => .ok []
  | name :: rest => do
    let found ← c.hasSecret name
    let missing ← c.missingAmong rest
    return if found then missing else name :: missing

/-- Succeeds when there is a secret for each of the names. -/
def requireSecrets (c : Config) (names : Value) : Except Fault Unit := do
  match names.elements? with
  | none => throw .unusableValue
  | some vs =>
    let missing ← c.missingAmong vs
    if missing.isEmpty then return ()
    else
      match missing.mapM Value.text? with
      | some names => throw (.missingSecrets names)
      | none => throw .unusableValue

/-- The settings with the value at a path set. -/
def set (c : Config) (path v : Value) : Except Fault Config := do
  let p ← requireText path
  match setAt? c.tree (pathOf p) v with
  | some tree => return { c with tree := tree }
  | none => throw .unusableValue

/-- The number that a value counts as when items are counted by it. -/
def position? : Value → Option Int
  | .int n => some n
  | .bool b => some (if b then 1 else 0)
  | _ => none

/-- A list with one of its items replaced, counted from either end. -/
def assignItem (items : List Value) (n : Int) (v : Value) : Except Fault (List Value) :=
  let index := if n < 0 then n + items.length else n
  if 0 ≤ index ∧ index < items.length then .ok (items.set index.toNat v)
  else .error .noSuchItem

/-- A value with one of its parts replaced: an entry of a record, or an item of a list. -/
def assignPart (target key v : Value) : Except Fault Value :=
  match target with
  | .record entries =>
    if key.isHashable then .ok (.record (Value.setEntry entries key v)) else .error .unusableValue
  | .list items =>
    match position? key with
    | some n => (assignItem items n v).map .list
    | none => .error .unusableValue
  | _ => .error .unusableValue

/-- The settings in which a part of the value at a path is replaced. -/
def assign (c : Config) (path key v : Value) : Except Fault Config := do
  let p ← requireText path
  match lookup? c.tree (pathOf p) with
  | none => throw .unusableValue
  | some target =>
    let changed ← assignPart target key v
    match setAt? c.tree (pathOf p) changed with
    | some tree => return { c with tree := tree }
    | none => throw .unusableValue

end TableClient.Config
