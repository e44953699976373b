import TableClient.Config.Loading
import TableClient.Decimal.Reading
import TableClient.Url.Instance
import TableClient.Url.Path
import TableClient.Value.Shown

/-!
# Connection settings

Where and how to reach an instance. Each field is checked by itself and all issues are reported in
the order of the fields: texts must be texts, the instance must not be blank, and the timeout must
be a number above zero or the text of one. A timeout that is not given keeps its default as it is.

## Main definitions

* `TableClient.Client.Field`, `TableClient.Client.Issue` — fields, and what can be wrong with one.
* `TableClient.Client.Settings` — checked settings.
* `TableClient.Client.Settings.ofMembers` — settings from named values.
* `TableClient.Client.Settings.instanceUrl`, `baseUrl` — the URLs they amount to.
-/

set_option relaxedAutoImplicit false
set_option autoImplicit false

namespace TableClient.Client

/-- A field of the connection settings. -/
inductive Field where
  | host
  | username
  | password
  | service
  | scope
  | timeout
deriving DecidableEq

/-- The name of a field. -/
def Field.name : Field → String
  | host => "instance"
  | username => "username"
  | password => "password"
  | service => "api_name"
  | scope => "namespace"
  | timeout => "timeout"

/-- What is wrong with a field. -/
inductive Issue where
  | missing
  /-- The value is not a text. -/
  | notText
  /-- The value is bytes that are not UTF-8 text, or the text of a number that has a surrogate. -/
  | notUtf8
  /-- The value is blank. -/
  | blank
  /-- The value is neither a number nor a text. -/
  | notNumber
  /-- The value is a text that denotes no number. -/
  | unreadableNumber
  /-- The number is not above zero. -/
  | notPositive
deriving DecidableEq

/-- Checked settings of a connection. -/
structure Settings where
  host : Text
  username : Text
  password : Text
  service : Text
  scope : Text
  timeout : Value

/-- The issues of the fields that have one. -/
abbrev Issues := List (Field × Issue)

/-- A field after its check, or its issue. -/
abbrev Checked (α : Type) := Except Issue α

/-- The text of a value; bytes count as the text that they spell. -/
def checkText : Value → Checked Text
  | .text t => .ok t
  | .bytes bs =>
    match Text.Utf8.decode? bs with
    | some cs => .ok (.ofChars cs)
    | none => .error .notUtf8
  | _ => .error .notText

/-- The text of a field, or its default when it is not given. -/
def checkField (given : Option Value) (default : Option Text) : Checked Text :=
  match given, default with
  | some v, _ => checkText v
  | none, some t => .ok t
  | none, none => .error .missing

/-- The text of the instance, which must not be blank. -/
def checkHost (given : Option Value) : Checked Text := do
  let t ← checkField given none
  if t.strip.isEmpty then throw .blank else return t

/-- Whether a character may surround a number: Unicode white space. -/
def isNumberSpace (c : Char) : Bool :=
  Text.isBlank c && !(0x1c ≤ c.toNat && c.toNat ≤ 0x1f)

/-- A text without underscores, if it neither begins nor ends with one nor has two in a row. -/
def withoutUnderscores? (cs : List Char) : Option (List Char) :=
  if cs.head? = some '_' ∨ cs.getLast? = some '_' ∨ Url.occursIn ['_', '_'] cs then none
  else some (cs.filter (· ≠ '_'))

/-- The number that a list of characters denotes. -/
def numberOfChars (cs : List Char) : Checked Binary64 :=
  match Decimal.plain? (Text.trim isNumberSpace cs) with
  | some x => .ok x
  | none =>
    match (withoutUnderscores? cs).bind Decimal.plain? with
    | some x => .ok x
    | none => .error .unreadableNumber

/-- The number that a value stands for. An integer beyond the floating-point range is none. -/
def numberOf : Value → Checked Binary64
  | .float x => .ok x
  | .bool b => .ok (.ofInt (if b then 1 else 0))
  | .int n =>
    match Binary64.ofInt n with
    | .infinite _ => .error .notNumber
    | x => .ok x
  | .text t =>
    match t.chars? with
    | some cs => numberOfChars cs
    | none => .error .notUtf8
  | .bytes bs =>
    match Text.Utf8.decode? bs with
    | some cs => numberOfChars cs
    | none => .error .unreadableNumber
  | _ => .error .notNumber

/-- The timeout, which must be above zero. -/
def checkTimeout : Option Value → Checked Value
  | none => .ok (.int Config.defaultTimeout)
  | some v => do
    let x ← numberOf v
    if x.isPositive then return .float x else throw .notPositive

/-- The issue of a checked field, as a list. -/
def issueOf {α : Type} (field : Field) : Checked α → Issues
  | .ok _ => []
  | .error i => [(field, i)]

namespace Settings

/-- Settings from named values; names that are no field do not count. -/
def ofMembers (given : Members) : Except Issues Settings :=
  let host := checkHost (given.get? Field.host.name)
  let username := checkField (given.get? Field.username.name) none
  let password := checkField (given.get? Field.password.name) none
  let service := checkField (given.get? Field.service.name) (some Config.defaultService)
  let scope := checkField (given.get? Field.scope.name) (some Config.defaultScope)
  let timeout := checkTimeout (given.get? Field.timeout.name)
  match host, username, password, service, scope, timeout with
  | .ok host, .ok username, .ok password, .ok service, .ok scope, .ok timeout =>
    .ok ⟨host, username, password, service, scope, timeout⟩
  | host, username, password, service, scope, timeout =>
    .error (issueOf .host host ++ issueOf .username username ++ issueOf .password password ++
      issueOf .service service ++ issueOf .scope scope ++ issueOf .timeout timeout)

/-- The URL of the instance. -/
def instanceUrl (s : Settings) : Text := Url.ofInstance s.host

/-- The base URL of the service. -/
def baseUrl (s : Settings) : Text := Url.base s.instanceUrl s.scope s.service

end Settings

end TableClient.Client
