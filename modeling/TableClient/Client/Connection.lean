import TableClient.Client.Channel
import TableClient.Client.Fault
import TableClient.Client.Settings
import TableClient.Session.Shared

/-!
# Connections

A connection is opened with named arguments, or with the shared settings and arguments that go
over them, and then takes calls: each is sent as one request and traced by two entries in the
journal, one before the request and one for what came of it. A call whose path has no encoded form
is refused before all that, and one whose first entry cannot be written is not sent.

## Main definitions

* `TableClient.Client.Connection` — the connections.
* `TableClient.Client.connect`, `TableClient.Client.connectConfigured` — opening a connection.
* `TableClient.Client.Call` — the calls, and `Connection.call` their action.
-/

set_option relaxedAutoImplicit false
set_option autoImplicit false

namespace TableClient.Client

/-- A connection: its checked settings, and the instance, user and password as they were given. -/
structure Connection where
  settings : Settings
  host : Value
  username : Value
  password : Value

/-- Why a connection is not opened. -/
inductive OpenFault where
  /-- An argument is missing, or there is none of a given name. -/
  | wrongArguments
  /-- The settings do not pass their checks. -/
  | issues (is : Issues)
  /-- The shared settings are not available. -/
  | shared (f : Session.Fault)
  /-- A secret is not available. -/
  | secret (f : Config.Fault)

/-! ### Opening a connection -/

/-- The arguments that may be left out, with their defaults. -/
def defaultArguments : Members :=
  [(Field.service.name, .text Config.defaultService), (Field.scope.name, .text Config.defaultScope),
   (Field.timeout.name, .int Config.defaultTimeout)]

/-- The names of the arguments that must be given. -/
def requiredArguments : List Text := [Field.host.name, Field.username.name, Field.password.name]

/-- The arguments with the defaults of those left out, provided that none is missing and none is
of another name. -/
def completeArguments (given : Members) : Except OpenFault Members :=
  let known := requiredArguments ++ defaultArguments.keys
  if requiredArguments.all (given.has ·) && given.keys.all (known.contains ·) then
    .ok (given.insertMissing defaultArguments)
  else .error .wrongArguments

/-- The argument of a name. -/
def argument (given : Members) (name : String) : Value := (given.get? name).getD .null

/-- The connection for complete arguments. -/
def Connection.ofArguments (given : Members) : Except OpenFault Connection :=
  match Settings.ofMembers given with
  | .error is => .error (.issues is)
  | .ok settings =>
    .ok ⟨settings, argument given Field.host.name, argument given Field.username.name,
      argument given Field.password.name⟩

/-- The details of the entry for a connection that was opened. -/
def openedDetails (c : Connection) (given : Members) : Members :=
  [("operation", .text "connection"), ("instance", .text c.settings.instanceUrl),
   ("api_name", argument given Field.service.name), ("namespace", argument given Field.scope.name)]

/-- Opens a connection. -/
def connect (given : Members) (j : Log.Journal) : Except OpenFault Connection × Log.Journal :=
  match completeArguments given with
  | .error f => (.error f, j)
  | .ok given =>
    match Connection.ofArguments given with
    | .error f => (.error f, j)
    | .ok c =>
      (.ok c, j.record .requests .info "servicenow_connection_created" (openedDetails c given))

/-- The arguments that settings and secrets amount to. The first secret that is missing is the one
that is reported. -/
def configuredArguments (c : Config) : Except Config.Fault Members := do
  let host ← c.secret (.text "servicenow_instance") true
  let username ← c.secret (.text "servicenow_user") true
  let password ← c.secret (.text "servicenow_password") true
  return [(Field.host.name, host), (Field.username.name, username),
    (Field.password.name, password), (Field.service.name, c.service), (Field.scope.name, c.scope),
    (Field.timeout.name, c.timeout)]

/-- The names that no override may have. They are taken by what is opened and by the transport it
is opened on, so they are refused before anything else is looked at. -/
def reservedOverrides : List String := ["cls", "session"]

/-- Opens a connection with the shared settings and arguments that go over them. -/
def connectConfigured (overrides : Members) (s : Session.Shared) :
    Except OpenFault Connection × Session.Shared :=
  if reservedOverrides.any (overrides.has ·) then (.error .wrongArguments, s)
  else
    match s.settings with
    | (.error f, s) => (.error (.shared f), s)
    | (.ok config, s) =>
      match configuredArguments config with
      | .error f => (.error (.secret f), s)
      | .ok given =>
        match s.log with
        | (.error f, s) => (.error (.shared f), s)
        | (.ok log, s) =>
          let (result, j) := connect (given.insertAll overrides) log.journal
          (result, { s with log? := some { log with journal := j } })

/-! ### Calls -/

/-- A call: path, parameters, method and body of the request, and what to get out of the response.
Without a choice that is the value of the body. -/
structure Call where
  path : Value
  params : Value := .null
  method : Value := .text "GET"
  body : Value := .null
  selector : Option Selector := none

/-- An action on a channel that may fail. -/
abbrev Action := ExceptT Fault (StateM Channel)

/-- The segments of the path: the items of a list, or the value itself. -/
def Call.segments (k : Call) : List Value :=
  match k.path with
  | .list segments => segments
  | segment => [segment]

/-- The number of characters of a rejecting response that the journal shows. -/
def previewLength : Nat := 500

/-- The value that a call answers with for a response. -/
def Call.answer (k : Call) (r : Response) : Except Fault Value :=
  match k.selector with
  | none => r.decoded.mapError fun f => .selector (.unreadable f)
  | some s => (s.pick r).mapError .selector

/-- The details of every entry about a request. -/
def Request.details (r : Request) : Members := [("method", r.method), ("url", .text r.url)]

/-- An entry about a request. -/
def Request.entry (r : Request) (level : Log.Level) (message : String) (more : Members) :
    Log.Entry :=
  Log.Component.requests.entry level message (r.details ++ more)

/-- Adds an entry about a request to the journal, which fails when it cannot be written. -/
def Request.trace (r : Request) (level : Log.Level) (message : String) (more : Members) :
    Action Unit := fun c =>
  let (result, j) := c.journal.tryWrite (r.entry level message more)
  (result.mapError .log, { c with journal := j })

namespace Connection

/-- The URL of a call, if its path has an encoded form. -/
def url (c : Connection) (k : Call) : Except Url.PathFault Text :=
  (Url.ofValues k.segments).map fun path => c.settings.baseUrl ++ Text.ofString path

/-- The request of a call with the given URL. -/
def request (c : Connection) (k : Call) (url : Text) : Request :=
  ⟨k.method, url, k.params, k.body, c.settings.timeout⟩

/-- Handles a failure of a request. -/
def fail (c : Connection) (r : Request) (f : Failure) : Action Value := do
  if f.isTransport then
    r.trace .error "servicenow_request_failed"
      [("error", .text f.text), ("error_type", .text f.kind)]
    throw (.operation (.unreachable c.host f))
  else throw (.other f)

/-- Handles the response to the request of a call. -/
def receive (c : Connection) (k : Call) (r : Request) (response : Response) : Action Value := do
  if response.isRejection then
    let preview := String.ofList (response.text.toList.take previewLength)
    r.trace .error "servicenow_api_error"
      [("status_code", .int response.status), ("reason", response.reasonValue),
       ("response_preview", .text preview)]
    throw (.operation (.rejected c.host response.status response.reasonValue))
  else
    r.trace .debug "servicenow_response" [("status_code", .int response.status)]
    liftExcept (k.answer response)

/-- Sends a call and handles what comes of it. -/
def call (c : Connection) (k : Call) : Action Value := do
  match c.url k with
  | .error f => throw (.argument (.path f))
  | .ok url =>
    let r := c.request k url
    r.trace .debug "servicenow_request" [("params", k.params)]
    match ← modifyGet (·.send r) with
    | .failure f => c.fail r f
    | .response response => c.receive k r response

end Connection

end TableClient.Client
