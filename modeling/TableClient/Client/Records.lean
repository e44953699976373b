import TableClient.Client.Connection
import TableClient.Query.Recorded
import TableClient.TableName

/-!
# Records of tables

The operations on the records of a table. A query that is given while it is being put together is
built when the operation is performed. A table with an unconventional name is warned about, and
every request is tracked.

## Main definitions

* `TableClient.Client.Parameter` — the parameters of a listing.
* `TableClient.Client.Filter`, `Filter.params` — what to list, as parameters.
* `TableClient.Client.Operation` — the operations, and `Connection.perform` their action.
-/

set_option relaxedAutoImplicit false
set_option autoImplicit false

namespace TableClient.Client

/-- A parameter of a listing. -/
inductive Parameter where
  | query
  | fields
  | limit
  | offset
  | displayValue
deriving DecidableEq

/-- The name of a parameter in a request. -/
def Parameter.name : Parameter → String
  | query => "sysparm_query"
  | fields => "sysparm_fields"
  | limit => "sysparm_limit"
  | offset => "sysparm_offset"
  | displayValue => "sysparm_display_value"

/-- The largest number of records that one listing may ask for. -/
def maxLimit : Int := 10000

/-- The field that is listed when the records are only counted. -/
def countField : String := "sys_created_on"

/-- What to list. Everything may be left out, which is said by null. -/
structure Filter where
  query : Value := .null
  fields : Value := .null
  limit : Value := .null
  offset : Value := .null
  displayValue : Value := .null

/-! ### Parameters -/

/-- An action on the journal of the channel. -/
def onJournal {α : Type} (step : Log.Journal → Except Query.Fault α × Log.Journal) : Action α :=
  fun c =>
    let (result, j) := step c.journal
    (result.mapError .query, { c with journal := j })

/-- The parameter of a query: the text that a query being put together is built to, or the value
itself; a value that does not count as set has none. -/
def queryParam : Value → Action Members
  | .query tokens field => do
    let text ← onJournal (Query.Builder.mk tokens field).buildRecorded
    return [(Parameter.query.name, .text text)]
  | v => return if v.isTruthy then [(Parameter.query.name, v)] else []

/-- The parameter of names of fields, which are joined by commas. -/
def fieldsParam (fields : Value) : Except Fault Members :=
  if fields.isTruthy then
    match fields.elements?.bind (·.mapM Value.text?) with
    | some names => .ok [(Parameter.fields.name, .text (Text.joined "," names))]
    | none => .error (.argument .fieldsNotTexts)
  else .ok []

/-- A number, or the largest limit if that is less. -/
def cappedLimit? : Value → Option Value
  | .int n => some (if maxLimit < n then .int maxLimit else .int n)
  | .bool b => some (.bool b)
  | .float x => some (if (x.sub (.ofInt maxLimit)).isPositive then .int maxLimit else .float x)
  | _ => none

/-- A parameter with the text of a value, if the value has one. -/
def shownParam (p : Parameter) (v : Value) : Except Fault Members :=
  match v.showFault? maxNesting with
  | some f => .error (.argument (.unshowable f))
  | none => .ok [(p.name, .text v.shown)]

/-- The parameter of a limit. -/
def limitParam : Value → Except Fault Members
  | .null => .ok []
  | v =>
    match cappedLimit? v with
    | some n => shownParam .limit n
    | none => .error (.argument .limitNotNumber)

/-- The parameter of an offset. -/
def offsetParam : Value → Except Fault Members
  | .null => .ok []
  | v => shownParam .offset v

/-- The parameter that chooses how references are shown. -/
def displayValueParam : Value → Members
  | .null => []
  | v => [(Parameter.displayValue.name, v)]

/-- The parameters of a listing. The query is built first. -/
def Filter.params (f : Filter) : Action Members := do
  let query ← queryParam f.query
  let fields ← liftExcept (fieldsParam f.fields)
  let limit ← liftExcept (limitParam f.limit)
  let offset ← liftExcept (offsetParam f.offset)
  return query ++ fields ++ limit ++ offset ++ displayValueParam f.displayValue

/-- The parameters of a count. -/
def countParams (query : Value) : Action Members := do
  let params ← Filter.params { query := query }
  return Keyed.insertAll [(Parameter.fields.name, .text countField)] params

/-! ### Bodies -/

/-- A member of a record that must be there. -/
def requireMember (v : Value) (name : String) : Except Fault Value :=
  match v with
  | .record entries =>
    match Keyed.get? entries (.text name) with
    | some m => .ok m
    | none => .error (.body .missingMember)
  | _ => .error (.body .notRecord)

/-- The id of the record in a body. -/
def recordId (body : Value) : Except Fault Value := do
  let result ← requireMember body "result"
  requireMember result "sys_id"

/-- The number of parts of a value that has parts. -/
def partCount? : Value → Option Nat
  | .list items => some items.length
  | .text t => some t.length
  | .record entries => some entries.length
  | _ => none

/-- The number of records in a body. A body or result that does not count as set has none. -/
def recordCount (body : Value) : Except Fault Value :=
  if body.isTruthy then
    match body with
    | .record entries =>
      let result := (Keyed.get? entries (.text "result")).getD .null
      if result.isTruthy then
        match partCount? result with
        | some n => .ok (.int n)
        | none => .error (.body .notCountable)
      else .ok (.int 0)
    | _ => .error (.body .noMembers)
  else .ok (.int 0)

/-! ### Operations -/

/-- An operation on the records of a table. -/
inductive Operation where
  | list (table : Value) (filter : Filter)
  | count (table query : Value)
  | create (table body : Value)
  | fetch (table id : Value)
  | update (table body id : Value)
  | delete (table id : Value)

/-- The table of a call: the first segment of its path. -/
def Call.table (k : Call) : Except Fault Value :=
  match k.path with
  | .list [] => .error (.argument .noTable)
  | .list (table :: _) => .ok table
  | table => .ok table

/-- The entry that warns about the name of a table. -/
def warnTable (table : Value) : Action Unit :=
  modify (·.record .warning "unusual_table_name"
    [("table", table),
     ("details", .text "Table name does not follow ServiceNow naming conventions")])

/-- Succeeds when the table has a text as name, and warns when the name is unconventional. -/
def checkTable : Value → Action Unit
  | .text t => if TableName.isConventional t then pure () else warnTable (.text t)
  | _ => throw (.argument .tableNotText)

namespace Connection

/-- A call on a table, with the check of its name and tracked. -/
def callTable (c : Connection) (k : Call) : Action Value := do
  let table ← liftExcept k.table
  checkTable table
  let context : Members :=
    [("component", .text Log.Component.requests.name), ("method", k.method), ("table", table)]
  ExceptT.mk (Log.track Fault.log (.text "servicenow_request") context (c.call k).run)

/-- Performs an operation. -/
def perform (c : Connection) : Operation → Action Value
  | .list table filter => do
    let params ← filter.params
    c.callTable { path := table, params := .ofMembers params }
  | .count table query => do
    let params ← countParams query
    liftExcept (recordCount (← c.callTable { path := table, params := .ofMembers params }))
  | .create table body => do
    liftExcept (recordId (← c.callTable { path := table, method := .text "POST", body := body }))
  | .fetch table id => c.callTable { path := .list [table, id] }
  | .update table body id => do
    let call : Call := { path := .list [table, id], method := .text "PUT", body := body }
    liftExcept (recordId (← c.callTable call))
  | .delete table id =>
    c.callTable
      { path := .list [table, id], method := .text "DELETE", selector := some .deleted }

/-- Performs operations one after the other; one that fails does not end the run. -/
def performAll (c : Connection) : List Operation → Channel → List (Except Fault Value) × Channel
  | [], channel => ([], channel)
  | o :: rest, channel =>
    let (result, channel) := (c.perform o).run channel
    let (results, channel) := c.performAll rest channel
    (result :: results, channel)

end Connection

end TableClient.Client
