import TableClient.Text.ByteForm
import TableClient.Value.Basic

/-!
# The environment

The variables of the environment are kept by the system, which takes names and values as bytes and
ends both at a null character. A variable is therefore read back as the text of its bytes, and some
names and values cannot be set at all.

## Main definitions

* `TableClient.Config.Environment` — variables by name.
* `TableClient.Config.Environment.assign` — setting a variable, or removing it.
* `TableClient.Config.Environment.ofMembers` — the environment of named values.
-/

set_option relaxedAutoImplicit false
set_option autoImplicit false

namespace TableClient.Config

/-- The variables of the environment. -/
abbrev Environment := Named Text

/-- Why a variable cannot be set. -/
inductive VariableFault where
  /-- The name or the value is not a text. -/
  | notText
  /-- The name or the value has no byte form. -/
  | notEncodable
  /-- The null character is in the name or in the value. -/
  | nullCharacter
  /-- The name is empty. -/
  | emptyName
  /-- An equals sign, which would end the name, is in it. -/
  | equalsInName
deriving DecidableEq

namespace Environment

/-- The text that a name or value is read back as. -/
def stored : Value → Except VariableFault Text
  | .text t =>
    match t.toBytes? with
    | some bs => .ok (Text.ofBytes bs)
    | none => .error .notEncodable
  | _ => .error .notText

/-- What is wrong with a name and value that have a byte form, if anything is. -/
def refusal? (name value : Text) : Option VariableFault :=
  if name.hasNull || value.hasNull then some .nullCharacter
  else if name.isEmpty then some .emptyName
  else if name.points.contains (.char '=') then some .equalsInName
  else none

/-- The environment with a variable set, or removed when its value is null. A variable that cannot
be set is not there either, so removing it changes nothing. -/
def assign (env : Environment) (name value : Value) : Except VariableFault Environment := do
  let name ← stored name
  match value with
  | .null => return env.erase name
  | value =>
    let value ← stored value
    match refusal? name value with
    | some f => throw f
    | none => return env.insert name value

/-- The environment of named values; those that cannot be set are left out. -/
def ofMembers (members : Members) : Environment :=
  members.foldl (fun env (name, v) => (env.assign (.text name) v).toOption.getD env) []

end Environment

end TableClient.Config
