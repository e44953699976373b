import TableClient.Client.Records
import TableClient.Proofs.Client.Footprint
import TableClient.Proofs.Computation
import TableClient.Proofs.Decimal.Canonical

set_option relaxedAutoImplicit false
set_option autoImplicit false

/-!
# What operations do

Every operation is described by the parameters that it builds, the one call that it makes with them,
and what it makes of the answer. The description follows the layers of the program: a call sends
one request between two entries, a call on a table is tracked and may be warned about, and an
operation may build a query before. Each layer has one result and one footprint, which say what the
operation does for every argument, every state of the journal and every outcome of its request.

A journal can refuse two of these entries: the one before a request, if the parameters cannot be
written, so that no request is sent; and the one behind an accepted response, if there is no numeral
of its status.

## Main definitions

* `TableClient.Client.Request.opening`, `TableClient.Client.Request.closing?` — the entries around a
  request.
* `TableClient.Client.Connection.requestOf`, `TableClient.Client.Connection.settled` — the request
  of a call, and what it results in.
* `TableClient.Client.Operation.params`, `TableClient.Client.Operation.call` — the parameters and
  the call of an operation.
* `TableClient.Client.Connection.result`, `TableClient.Client.Connection.footprint` — what an
  operation results in, and its footprint.
* `TableClient.Client.Connection.plan`, `TableClient.Client.Connection.sentBy` — the request of an
  operation, and what it sends.
* `TableClient.Client.Connection.stages` — the operations of a run, each with the channel that it is
  performed on.

## Main results

* `TableClient.Client.Request.refusal?_entry` — the entries about a request that are refused.
* `TableClient.Client.Leaves.perform` — an operation does what its description says.
* `TableClient.Client.Connection.result_eq`, `TableClient.Client.Connection.sentBy_eq` — an
  operation results in what it makes of what comes of its request, and sends its request and no
  other.
* `TableClient.Client.Connection.refusal?_of_mem_footprint` — its entries are not refused.
* `TableClient.Client.Connection.performAll_eq` — a run does what its operations do.
-/

namespace TableClient.Client

open Log (Component Entry Journal Level)

variable (c : Connection) (ch : Channel)

/-! ### Calls -/

/-- The status of a rejection has a numeral. -/
lemma Response.numeralFault?_of_isRejection {response : Response}
    (h : response.isRejection = true) : Value.numeralFault? response.status = none := by
  have hsmall : response.status.natAbs < 10 ^ 3 := by
    simp only [isRejection, Bool.and_eq_true, decide_eq_true_eq] at h
    omega
  refine Json.numeralFault?_eq_none.2 (decide_eq_true ?_)
  exact ((Numeral.length_ofNat_le_iff _ 2).2 hsmall).trans (by decide)

/-- An outcome with a status that has a numeral, or without one. -/
def Outcome.HasNumeral : Outcome → Prop
  | response r => Value.hasNumeral r.status = true
  | failure _ => True

namespace Request

variable (r : Request)

/-- The entry before a request. -/
def opening : Entry := r.entry .debug "servicenow_request" [("params", r.params)]

/-- The entry for a response that is no rejection. -/
def accepted (response : Response) : Entry :=
  r.entry .debug "servicenow_response" [("status_code", .int response.status)]

/-- The entry for a response that is a rejection. -/
def rejected (response : Response) : Entry :=
  r.entry .error "servicenow_api_error"
    [("status_code", .int response.status), ("reason", response.reasonValue),
      ("response_preview", .text (String.ofList (response.text.toList.take previewLength)))]

/-- The entry for a failure of the transport. -/
def failed (f : Failure) : Entry :=
  r.entry .error "servicenow_request_failed"
    [("error", .text f.text), ("error_type", .text f.kind)]

/-- The entry for what came of a request. A failure that is not of the transport has none. -/
def closing? : Outcome → Option Entry
  | .response response =>
    some (if response.isRejection then r.rejected response else r.accepted response)
  | .failure f => if f.isTransport then some (r.failed f) else none

variable {r} {m : Text} {response : Response}

/-- The details of every entry about a request can be logged if its method is a text. -/
lemma recordable_details (h : Json.fault? r.method (maxNesting - 1) = none) :
    Log.Recordable r.details :=
  ⟨rfl, List.forall_mem_cons.2 ⟨h, List.forall_mem_singleton.2 (Json.fault?_text _ _)⟩⟩

/-- **An entry about a request with one more detail** is refused because of this detail, if its line
is put together. -/
theorem refusal?_entry {level : Level} {message : String} {name : Text} {v : Value} (j : Journal)
    (hmethod : Json.fault? r.method (maxNesting - 1) = none)
    (hname : Log.reservedNames.any (Keyed.has [(name, v)] ·) = false)
    (hid : ("correlation_id" : Text) ≠ name)
    (hget : ((r.entry level message [(name, v)]).members j.clock.day.next none).get? name =
      some v) :
    j.refusal? (r.entry level message [(name, v)]) =
      if j.examines level then (Json.fault? v (maxNesting - 1)).map .unwritable else none := by
  let e := r.entry level message [(name, v)]
  have hreserved : Log.reservedNames.any (fun name => e.details.has name) = false := by
    have hcomponent : Log.reservedNames.any
        (Keyed.has [("component", Value.text Component.requests.name)] ·) = false := rfl
    exact Log.unreserved_append hcomponent
      (Log.unreserved_append (recordable_details hmethod).unreserved hname)
  have hdetails : ∀ detail ∈ e.details,
      Json.fault? detail.2 (maxNesting - 1) = none ∨ detail.2 = v := by
    simp [e, entry, Component.entry, details, hmethod]
  rw [j.refusal?_eq hreserved (Component.goesTo_entry ..), Journal.lineFault?,
    Entry.fault?_eq_of_detail (Json.fault?_text _ _) hdetails hget hid]
  rfl

/-- The entry before a request is refused when the parameters cannot be written. -/
lemma refusal?_opening (h : Json.fault? r.method (maxNesting - 1) = none) (j : Journal) :
    j.refusal? r.opening =
      if j.examines .debug then (Json.fault? r.params (maxNesting - 1)).map .unwritable else none :=
  refusal?_entry j h rfl (by decide) rfl

/-- The entry for a response that is no rejection is refused when its status has no numeral. -/
lemma refusal?_accepted (h : Json.fault? r.method (maxNesting - 1) = none) (j : Journal) :
    j.refusal? (r.accepted response) =
      if j.examines .debug then (Value.numeralFault? response.status).map .unwritable
      else none := by
  have hentry := @refusal?_entry r .debug "servicenow_response" "status_code"
    (.int response.status) j h rfl (by decide) rfl
  rwa [Json.fault?_int] at hentry

/-- The entry for a rejection is not refused. -/
lemma refusal?_rejected (h : Json.fault? r.method (maxNesting - 1) = none)
    (hrejection : response.isRejection = true) (j : Journal) :
    j.refusal? (r.rejected response) = none := by
  have hreason : Json.fault? response.reasonValue (maxNesting - 1) = none := by
    unfold Response.reasonValue
    cases response.reason with
    | none => exact Json.fault?_null _
    | some reason => exact Json.fault?_text _ _
  have hstatus : Json.fault? (.int response.status) (maxNesting - 1) = none := by
    rw [Json.fault?_int]
    exact response.numeralFault?_of_isRejection hrejection
  refine j.refusal?_of_recordable ((recordable_details h).append ⟨rfl, ?_⟩) _ _ _
  exact List.forall_mem_cons.2 ⟨hstatus, List.forall_mem_cons.2
    ⟨hreason, List.forall_mem_singleton.2 (Json.fault?_text _ _)⟩⟩

/-- The entry for a failure of the transport is not refused. -/
lemma refusal?_failed (h : Json.fault? r.method (maxNesting - 1) = none) (f : Failure)
    (j : Journal) : j.refusal? (r.failed f) = none := by
  refine j.refusal?_of_recordable ((recordable_details h).append ⟨rfl, ?_⟩) _ _ _
  exact List.forall_mem_cons.2
    ⟨Json.fault?_text _ _, List.forall_mem_singleton.2 (Json.fault?_text _ _)⟩

/-- The entry for what came of a request is not refused if there is a numeral of the status. -/
lemma refusal?_closing (h : Json.fault? r.method (maxNesting - 1) = none) {outcome : Outcome}
    (houtcome : outcome.HasNumeral) (j : Journal) :
    (r.closing? outcome).bind j.refusal? = none := by
  cases outcome with
  | failure f =>
    unfold closing?
    dsimp only
    split
    · exact refusal?_failed h f j
    · rfl
  | response response =>
    show j.refusal? (if response.isRejection then r.rejected response else r.accepted response) =
      none
    split
    · rename_i hrejection
      exact refusal?_rejected h hrejection j
    · rw [refusal?_accepted h, Json.numeralFault?_eq_none.2 houtcome]
      exact ite_self none

/-- The entry for what came of a request is written if there is a numeral of the status. -/
lemma admitted_closing (h : Json.fault? r.method (maxNesting - 1) = none) {outcome : Outcome}
    (houtcome : outcome.HasNumeral) (j : Journal) :
    j.admitted (r.closing? outcome).toList = (r.closing? outcome).toList := by
  have hnone := refusal?_closing h houtcome j
  cases hclosing : r.closing? outcome with
  | none => rfl
  | some e =>
    rw [hclosing, Option.bind_some] at hnone
    rw [Journal.admitted, Option.toList_some, List.filter_singleton, hnone]
    rfl

end Request

namespace Connection

/-- What a call results in when its request meets an outcome, provided that the entry about it is
not refused. -/
def settle (k : Call) : Outcome → Except Fault Value
  | .response response =>
    if response.isRejection then
      .error (.operation (.rejected c.host response.status response.reasonValue))
    else k.answer response
  | .failure f => .error (if f.isTransport then .operation (.unreachable c.host f) else .other f)

/-- What a call results in when its request meets an outcome. -/
def settled (j : Journal) (k : Call) (r : Request) (outcome : Outcome) : Except Fault Value :=
  match (r.closing? outcome).bind j.refusal? with
  | some f => .error (.log f)
  | none => c.settle k outcome

/-- A call settles for an outcome whose status has a numeral, as its entry is not refused. -/
lemma settled_of_hasNumeral (j : Journal) (k : Call) {r : Request} {outcome : Outcome}
    (hmethod : Json.fault? r.method (maxNesting - 1) = none) (h : outcome.HasNumeral) :
    c.settled j k r outcome = c.settle k outcome := by
  unfold settled
  rw [Request.refusal?_closing hmethod h]

section Settling

variable (j : Journal) (k : Call) {r : Request} {response : Response} {f : Failure}

/-- A rejection is reported. -/
lemma settled_of_isRejection (hmethod : Json.fault? r.method (maxNesting - 1) = none)
    (h : response.isRejection = true) :
    c.settled j k r (.response response) =
      .error (.operation (.rejected c.host response.status response.reasonValue)) := by
  have hentry : (r.closing? (.response response)).bind j.refusal? = none := by
    rw [Request.closing?, if_pos h, Option.bind_some, Request.refusal?_rejected hmethod h]
  rw [settled, hentry]
  exact if_pos h

/-- A response that is no rejection is answered with, once the entry about it is written. -/
lemma settled_of_accepted (h : ¬ response.isRejection = true) :
    c.settled j k r (.response response) =
      match j.refusal? (r.accepted response) with
      | some f => .error (.log f)
      | none => k.answer response := by
  have hentry : (r.closing? (.response response)).bind j.refusal? =
      j.refusal? (r.accepted response) := by
    rw [Request.closing?, if_neg h, Option.bind_some]
  have hanswer : c.settle k (.response response) = k.answer response := if_neg h
  rw [settled, hentry, hanswer]

/-- A failure of the transport is reported. -/
lemma settled_of_isTransport (hmethod : Json.fault? r.method (maxNesting - 1) = none)
    (h : f.isTransport = true) :
    c.settled j k r (.failure f) = .error (.operation (.unreachable c.host f)) := by
  have hentry : (r.closing? (.failure f)).bind j.refusal? = none := by
    rw [Request.closing?, if_pos h, Option.bind_some, Request.refusal?_failed hmethod]
  rw [settled, hentry, settle, if_pos h]

/-- Any other failure is passed on as it is. -/
lemma settled_of_not_isTransport (h : ¬ f.isTransport = true) :
    c.settled j k r (.failure f) = .error (.other f) := by
  have hentry : (r.closing? (.failure f)).bind j.refusal? = none := by
    rw [Request.closing?, if_neg h, Option.bind_none]
  rw [settled, hentry, settle, if_neg h]

end Settling

/-- The request of a call, if its path has an encoded form and the entry before it is not
refused. -/
def requestOf (j : Journal) (k : Call) : Except Fault Request :=
  match c.url k with
  | .error f => .error (.argument (.path f))
  | .ok url =>
    match j.refusal? (c.request k url).opening with
    | some f => .error (.log f)
    | none => .ok (c.request k url)

/-- What a call results in. -/
def callResult (j : Journal) (k : Call) (outcome : Outcome) : Except Fault Value := do
  let r ← c.requestOf j k
  c.settled j k r outcome

/-- The footprint of a call. -/
def callFootprint (j : Journal) (k : Call) (outcome : Outcome) : Footprint :=
  match c.requestOf j k with
  | .ok r => ⟨[r], 0, r.opening :: j.admitted (r.closing? outcome).toList⟩
  | .error _ => .writes []

variable {j j' : Journal}

/-- A call settles alike for journals that are alike. -/
lemma settled_congr (h : j.Alike j') : c.settled j' = c.settled j := by
  unfold settled
  rw [h.refusal?_eq]

/-- A call has the same request for journals that are alike. -/
lemma requestOf_congr (h : j.Alike j') : c.requestOf j' = c.requestOf j := by
  unfold requestOf
  rw [h.refusal?_eq]

/-- A call results in the same for journals that are alike. -/
lemma callResult_congr (h : j.Alike j') : c.callResult j' = c.callResult j := by
  unfold callResult
  rw [c.requestOf_congr h, c.settled_congr h]

/-- A call has the same footprint for journals that are alike. -/
lemma callFootprint_congr (h : j.Alike j') : c.callFootprint j' = c.callFootprint j := by
  unfold callFootprint
  rw [c.requestOf_congr h, h.admitted_eq]

end Connection

namespace Leaves

variable {c ch} {α : Type}

/-- An entry about a request is written before an action, unless it is refused. -/
lemma trace_bind {r : Request} {level : Level} {message : String} {more : Members}
    {x : Action α} {result : Except Fault α}
    (h : Leaves x (ch.after (.writes [r.entry level message more])) result (.writes [])) :
    Leaves (r.trace level message more >>= fun _ => x) ch
      (match ch.journal.refusal? (r.entry level message more) with
        | some f => .error (.log f)
        | none => result)
      (.writes (ch.journal.admitted [r.entry level message more])) := by
  rw [Journal.admitted, List.filter_singleton]
  cases hrefusal : ch.journal.refusal? (r.entry level message more) with
  | some f => exact (trace_of_refused hrefusal).bind_of_error
  | none => exact (trace_of_admitted hrefusal).bind h (Footprint.append_writes_nil _)

/-- What is done about a failure. -/
lemma fail (k : Call) (r : Request) (f : Failure) :
    Leaves (c.fail r f) ch (c.settled ch.journal k r (.failure f))
      (.writes (ch.journal.admitted (r.closing? (.failure f)).toList)) := by
  unfold Connection.fail Connection.settled Connection.settle Request.closing?
  dsimp only
  split
  · exact trace_bind (throw ..)
  · exact throw ..

/-- What is done about a response. -/
lemma receive (k : Call) (r : Request) (response : Response) :
    Leaves (c.receive k r response) ch (c.settled ch.journal k r (.response response))
      (.writes (ch.journal.admitted (r.closing? (.response response)).toList)) := by
  unfold Connection.receive Connection.settled Connection.settle Request.closing?
  dsimp only
  split
  · exact trace_bind (throw ..)
  · exact trace_bind (lift ..)

/-- What is done about an outcome. -/
lemma settled (k : Call) (r : Request) (outcome : Outcome) :
    Leaves (match outcome with
      | .failure f => c.fail r f
      | .response response => c.receive k r response) ch (c.settled ch.journal k r outcome)
        (.writes (ch.journal.admitted (r.closing? outcome).toList)) := by
  cases outcome with
  | response response => exact receive k r response
  | failure f => exact fail k r f

/-- **A call** sends its request, if it has one, between two entries. -/
theorem call (k : Call) :
    Leaves (c.call k) ch (c.callResult ch.journal k ch.next)
      (c.callFootprint ch.journal k ch.next) := by
  unfold Connection.call Connection.callResult Connection.callFootprint Connection.requestOf
  cases c.url k with
  | error f => exact throw ..
  | ok url =>
    let r := c.request k url
    dsimp only
    cases hopening : ch.journal.refusal? (c.request k url).opening with
    | some f => exact (trace_of_refused hopening).bind_of_error
    | none =>
      let opened := (ch.after (.writes [r.opening])).after { sent := [r] }
      have hsettled := @settled c opened k r ch.next
      -- what is refused stays the same while a request is sent
      have halike : ch.journal.Alike opened.journal :=
        (ch.alike_after _).trans (Channel.alike_after _ _)
      rw [c.settled_congr halike, halike.admitted_eq] at hsettled
      have hsent : Leaves (modifyGet (·.send r) >>= fun outcome =>
            match outcome with
            | .failure f => c.fail r f
            | .response response => c.receive k r response)
          (ch.after (.writes [r.opening])) (c.settled ch.journal k r ch.next)
          ({ sent := [r] } ++ .writes (ch.journal.admitted (r.closing? ch.next).toList)) :=
        (send ..).bind hsettled rfl
      exact (trace_of_admitted hopening).bind hsent rfl

end Leaves

/-! ### Calls on tables -/

/-- The name of the table of a call, which must be a text. -/
def Call.tableName (k : Call) : Except Fault Text :=
  match k.table with
  | .ok (.text t) => .ok t
  | .ok _ => .error (.argument .tableNotText)
  | .error f => .error f

/-- The warning about the name of a table, if it is unconventional. -/
def warnings (table : Text) : List Entry :=
  if TableName.isConventional table then []
  else
    [Component.requests.entry .warning "unusual_table_name"
      [("table", .text table),
       ("details", .text "Table name does not follow ServiceNow naming conventions")]]

/-- The details of the warning about the name of a table can be logged. -/
lemma recordable_warning (table : Text) :
    Log.Recordable [("table", .text table),
      ("details", .text "Table name does not follow ServiceNow naming conventions")] :=
  ⟨rfl, List.forall_mem_cons.2
    ⟨Json.fault?_text _ _, List.forall_mem_singleton.2 (Json.fault?_text _ _)⟩⟩

/-- The operation that the entries around a call name. -/
def trackedOperation : Value := .text "servicenow_request"

/-- The details of the entries around a call on a table. -/
def Call.context (k : Call) (table : Text) : Members :=
  [("component", .text Component.requests.name), ("method", k.method), ("table", .text table)]

/-- The entries around a call with a text as method can be logged. -/
lemma Call.trackable_context {k : Call} {method : Text} (h : k.method = .text method)
    (table : Text) : Log.Trackable (k.context table) .requests := by
  refine ⟨rfl, ⟨rfl, ?_⟩, rfl, rfl⟩
  simp [context, h]

/-- The entry that a call on a table has started. -/
def Call.started (k : Call) (table : Text) : Entry :=
  Log.startedEntry trackedOperation (k.context table)

/-- The entry that a call on a table has ended, whatever came of it. -/
def Call.completed (k : Call) (table : Text) : Entry :=
  Log.completedEntry trackedOperation (k.context table) ch.reading ch.laterReading

namespace Connection

/-- What a call on a table results in. -/
def tableResult (j : Journal) (k : Call) (outcome : Outcome) : Except Fault Value := do
  let _ ← k.tableName
  c.callResult j k outcome

/-- The footprint of a call on a table. -/
def tableFootprint (k : Call) : Footprint :=
  match k.tableName with
  | .ok table =>
    .writes (warnings table) ++ (⟨[], 1, [k.started table]⟩ ++
      c.callFootprint ch.journal k ch.next ++ ⟨[], 1, [k.completed ch table]⟩)
  | .error _ => .writes []

/-- A call on a table results in the same for journals that are alike. -/
lemma tableResult_congr {j j' : Journal} (h : j.Alike j') : c.tableResult j' = c.tableResult j := by
  unfold tableResult
  rw [c.callResult_congr h]

/-- Entries before a call on a table do not change its footprint. -/
lemma tableFootprint_after_writes (k : Call) (es : List Entry) :
    c.tableFootprint (ch.after (.writes es)) k = c.tableFootprint ch k := by
  unfold tableFootprint Call.completed
  rw [ch.next_after_of_unsent _ rfl, ch.reading_after_writes, ch.laterReading_after_writes,
    c.callFootprint_congr (ch.alike_after _)]

/-- A call does not read the timer. -/
lemma readings_callFootprint (j : Journal) (k : Call) (outcome : Outcome) :
    (c.callFootprint j k outcome).readings = 0 := by
  unfold callFootprint
  split <;> rfl

end Connection

namespace Leaves

variable {c ch}

/-- The check of the name of a table. -/
lemma checkTable (table : Text) :
    Leaves (checkTable (.text table)) ch (.ok ()) (.writes (warnings table)) := by
  unfold Client.checkTable warnings
  dsimp only
  split
  · exact pure ..
  · exact record_of_recordable (recordable_warning table) ..

/-- **A call on a table** whose method is a text is warned about and tracked, once the table is
known to have a name. -/
theorem callTable {k : Call} {method : Text} (hmethod : k.method = .text method) :
    Leaves (c.callTable k) ch (c.tableResult ch.journal k ch.next) (c.tableFootprint ch k) := by
  unfold Connection.callTable Connection.tableResult Connection.tableFootprint Call.tableName
  rcases k.table with f | table
  · exact bind_of_error (lift ..)
  · cases table with
    | text t =>
      let opened := ch.after (.writes (warnings t))
      let started := opened.after ⟨[], 1, [k.started t]⟩
      have halike : ch.journal.Alike started.journal :=
        (ch.alike_after _).trans (Channel.alike_after _ _)
      have hcall : Leaves (c.call k) started (c.callResult started.journal k ch.next)
          (c.callFootprint started.journal k ch.next) := call k
      rw [c.callResult_congr halike, c.callFootprint_congr halike] at hcall
      have htracked := tracked (k.trackable_context hmethod t) hcall
        (c.readings_callFootprint ch.journal k ch.next)
      rw [ch.reading_after_writes, ch.laterReading_after_writes] at htracked
      exact lift_bind ((checkTable t).bind htracked rfl)
    | _ => exact lift_bind (bind_of_error (throw ..))

end Leaves

/-! ### Parameters -/

/-- The entry of a query that is built: it is put together, and has tokens. -/
def builtEntries : Value → List Entry
  | .query tokens field =>
    if tokens.isEmpty then []
    else
      [Component.query.entry .debug "glide_query_built"
        [("query", .text (Query.Builder.mk tokens field).encoded),
         ("token_count", .int tokens.length)]]
  | _ => []

/-- Building a query that has tokens writes its entry, unless it is refused. -/
lemma recordBuilt_eq {tokens : List Text} (h : tokens ≠ []) (field : Value) (j : Journal) :
    (Query.Builder.mk tokens field).recordBuilt j =
      j.enterAll .requests (j.admitted (builtEntries (.query tokens field))) := by
  rw [Query.Builder.recordBuilt, Journal.record_eq_admitted, builtEntries,
    if_neg (by simpa using h)]
  rfl

/-- The parameter of a query. -/
def queryMembers : Value → Except Fault Members
  | .query tokens field =>
    if tokens.isEmpty then .error (.query .emptyQuery)
    else .ok [(Parameter.query.name, .text (Query.Builder.mk tokens field).encoded)]
  | v => .ok (if v.isTruthy then [(Parameter.query.name, v)] else [])

/-- The parameters of a listing, or the first of its arguments that is unusable. -/
def Filter.members (f : Filter) : Except Fault Members := do
  let query ← queryMembers f.query
  let fields ← fieldsParam f.fields
  let limit ← limitParam f.limit
  let offset ← offsetParam f.offset
  return query ++ fields ++ limit ++ offset ++ displayValueParam f.displayValue

/-- The parameters of a count. -/
def countMembers (query : Value) : Except Fault Members := do
  let params ← Filter.members { query := query }
  return Keyed.insertAll [(Parameter.fields.name, .text countField)] params

namespace Leaves

variable {ch}

/-- The parameter of a query is built with its entry, if it has one. -/
lemma queryParam (v : Value) :
    Leaves (queryParam v) ch (queryMembers v)
      (.writes (ch.journal.admitted (builtEntries v))) := by
  cases v with
  | query tokens field =>
    let b : Query.Builder := ⟨tokens, field⟩
    have hbuilt : Leaves (onJournal b.buildRecorded) ch (b.build.mapError .query)
        (.writes (ch.journal.admitted (builtEntries (.query tokens field)))) := by
      cases tokens with
      | nil => exact throw (.query .emptyQuery) ch
      | cons t ts =>
        show (Except.ok b.encoded, { ch with journal := b.recordBuilt ch.journal }) = _
        rw [recordBuilt_eq (List.cons_ne_nil t ts), Footprint.writes, ch.after_of_unsent]
        rfl
    have hparam := hbuilt.bind_computation fun text ch =>
      pure (([(Parameter.query.name, .text text)] : Members)) ch
    cases tokens <;> exact hparam
  | _ => exact pure ..

/-- **The parameters of a listing** are built with the entry of its query. -/
theorem params (f : Filter) :
    Leaves f.params ch f.members (.writes (ch.journal.admitted (builtEntries f.query))) :=
  (queryParam f.query).bind_computation fun _ _ =>
    (lift ..).bind_computation fun _ _ =>
      (lift ..).bind_computation fun _ _ => (lift ..).bind_computation fun _ _ => pure ..

/-- **The parameters of a count** are built with the entry of its query. -/
theorem countParams (query : Value) :
    Leaves (countParams query) ch (countMembers query)
      (.writes (ch.journal.admitted (builtEntries query))) :=
  (params { query := query }).bind_computation fun _ _ => pure ..

end Leaves

/-! ### Operations -/

namespace Operation

/-- The method of an operation. -/
def method : Operation → String
  | list .. | count .. | fetch .. => "GET"
  | create .. => "POST"
  | update .. => "PUT"
  | delete .. => "DELETE"

/-- The path of an operation: its table, and its record if it is about one. -/
def path : Operation → Value
  | list table _ | count table _ | create table _ => table
  | fetch table id | update table _ id | delete table id => .list [table, id]

/-- The query of an operation. -/
def query : Operation → Value
  | list _ filter => filter.query
  | count _ query => query
  | _ => .null

/-- The parameters of an operation. -/
def params : Operation → Except Fault Value
  | list _ filter => do return .ofMembers (← filter.members)
  | count _ query => do return .ofMembers (← countMembers query)
  | _ => .ok .null

/-- The body of an operation. -/
def body : Operation → Value
  | create _ body | update _ body _ => body
  | _ => .null

/-- What an operation gets out of the response. -/
def selector : Operation → Option Selector
  | delete .. => some .deleted
  | _ => none

/-- The action that builds the parameters of an operation. -/
def buildParams : Operation → Action Value
  | list _ filter => do return .ofMembers (← filter.params)
  | count _ query => do return .ofMembers (← countParams query)
  | _ => pure .null

/-- The call of an operation with its parameters. -/
def call (o : Operation) (params : Value) : Call where
  path := o.path
  params := params
  method := .text o.method
  body := o.body
  selector := o.selector

/-- What an operation makes of the answer to its call. -/
def finish : Operation → Value → Except Fault Value
  | count .. => recordCount
  | create .. | update .. => recordId
  | _ => .ok

end Operation

namespace Connection

/-- What an operation results in when its request meets an outcome. -/
def result (j : Journal) (o : Operation) (outcome : Outcome) : Except Fault Value := do
  let params ← o.params
  let answer ← c.tableResult j (o.call params) outcome
  o.finish answer

/-- The footprint of an operation. -/
def footprint (o : Operation) : Footprint :=
  .writes (ch.journal.admitted (builtEntries o.query)) ++
    match o.params with
    | .ok params => c.tableFootprint ch (o.call params)
    | .error _ => .writes []

end Connection

/-- Every operation builds its parameters, makes its call with them and finishes with the answer. -/
lemma Connection.perform_eq (o : Operation) :
    c.perform o = o.buildParams >>= fun params =>
      c.callTable (o.call params) >>= fun answer => liftExcept (o.finish answer) := by
  cases o with
  | list table filter =>
    simp only [Operation.buildParams, bind_assoc, pure_bind]
    exact congrArg (filter.params >>= ·) (funext fun params => (bind_pure _).symm)
  | count table query =>
    simp only [Operation.buildParams, bind_assoc, pure_bind]
    rfl
  | create table body => rfl
  | fetch table id => exact (bind_pure _).symm
  | update table body id => rfl
  | delete table id => exact (bind_pure _).symm

namespace Leaves

variable {c ch}

/-- The parameters of an operation are built with the entry of its query. -/
lemma buildParams (o : Operation) :
    Leaves o.buildParams ch o.params (.writes (ch.journal.admitted (builtEntries o.query))) := by
  cases o with
  | list table filter => exact (params filter).bind_computation fun _ _ => pure ..
  | count table query => exact (countParams query).bind_computation fun _ _ => pure ..
  | _ => exact pure ..

/-- **An operation** does what its description says. -/
theorem perform (o : Operation) :
    Leaves (c.perform o) ch (c.result ch.journal o ch.next) (c.footprint ch o) := by
  have hparams := @buildParams ch o
  rw [c.perform_eq]
  unfold Connection.result Connection.footprint
  cases h : o.params with
  | error fault =>
    rw [h] at hparams
    rw [Footprint.append_writes_nil]
    exact hparams.bind_of_error
  | ok params =>
    rw [h] at hparams
    let built := ch.after (.writes (ch.journal.admitted (builtEntries o.query)))
    have htable : Leaves (c.callTable (o.call params)) built
        (c.tableResult built.journal (o.call params) ch.next)
        (c.tableFootprint built (o.call params)) := callTable rfl
    have hfinished := htable.bind_computation fun answer ch => lift (o.finish answer) ch
    rw [c.tableFootprint_after_writes, c.tableResult_congr (ch.alike_after _)] at hfinished
    exact hparams.bind hfinished rfl

end Leaves

/-- What is left of a channel on which an operation is performed. -/
lemma Connection.run_perform (o : Operation) :
    (c.perform o).run ch = (c.result ch.journal o ch.next, ch.after (c.footprint ch o)) :=
  Leaves.perform o

/-! ### Requests of operations -/

namespace Connection

/-- The request of an operation: its parameters can be built, its table has a name, its path has an
encoded form, and the entry before the request is not refused. -/
def plan (j : Journal) (o : Operation) : Except Fault Request := do
  let params ← o.params
  let _ ← (o.call params).tableName
  c.requestOf j (o.call params)

/-- A connection for which nothing is set that may be left out. -/
def plain : Connection where
  settings :=
    ⟨"dev", "user", "secret", Config.defaultService, Config.defaultScope,
      .int Config.defaultTimeout⟩
  host := .text "dev"
  username := .text "user"
  password := .text "secret"

/-- The requests that an operation sends when it is performed. -/
def sentBy (o : Operation) : List Request := ((c.perform o).run ch).2.sent.drop ch.sent.length

variable {c} {j : Journal} {k : Call} {o : Operation} {r : Request} {outcome : Outcome}

/-- The request of a call has the parameters of the call. -/
lemma request_of_requestOf (h : c.requestOf j k = .ok r) :
    ∃ url, c.url k = .ok url ∧ r = c.request k url ∧ j.refusal? r.opening = none := by
  unfold requestOf at h
  cases hurl : c.url k with
  | error f =>
    rw [hurl] at h
    cases h
  | ok url =>
    rw [hurl] at h
    dsimp only at h
    cases hopening : j.refusal? (c.request k url).opening with
    | some f =>
      rw [hopening] at h
      cases h
    | none =>
      rw [hopening] at h
      cases h
      exact ⟨url, rfl, rfl, hopening⟩

/-- What is known of the request of an operation: it is that of its call with its parameters. -/
lemma params_of_plan (h : c.plan j o = .ok r) :
    o.params = .ok r.params ∧ (∃ table, (o.call r.params).tableName = .ok table) ∧
      c.requestOf j (o.call r.params) = .ok r := by
  obtain ⟨params, hparams, hrest⟩ := bind_eq_ok_iff.1 h
  obtain ⟨table, htable, hrequest⟩ := bind_eq_ok_iff.1 hrest
  obtain ⟨url, -, rfl, -⟩ := request_of_requestOf hrequest
  exact ⟨hparams, ⟨table, htable⟩, hrequest⟩

/-- The method of the request of an operation can be written. -/
lemma method_of_plan (h : c.plan j o = .ok r) : Json.fault? r.method (maxNesting - 1) = none := by
  obtain ⟨-, -, hrequest⟩ := params_of_plan h
  obtain ⟨url, -, hr, -⟩ := request_of_requestOf hrequest
  have hmethod : r.method = .text o.method := by
    rw [hr]
    rfl
  rw [hmethod]
  exact Json.fault?_text _ _

variable (c j o outcome)

/-- **An operation results in what it makes of what comes of its request**, or in the reason for not
sending one. -/
theorem result_eq : c.result j o outcome =
    c.plan j o >>= fun r => c.settled j (o.call r.params) r outcome >>= o.finish := by
  unfold result plan tableResult callResult
  cases hparams : o.params with
  | error f => rfl
  | ok params =>
    show ((o.call params).tableName >>= fun _ => c.requestOf j (o.call params) >>= fun r =>
        c.settled j (o.call params) r outcome) >>= o.finish =
      ((o.call params).tableName >>= fun _ => c.requestOf j (o.call params)) >>= _
    cases (o.call params).tableName with
    | error f => rfl
    | ok table =>
      show (c.requestOf j (o.call params) >>= fun r => c.settled j (o.call params) r outcome) >>=
        o.finish = c.requestOf j (o.call params) >>= _
      cases hrequest : c.requestOf j (o.call params) with
      | error f => rfl
      | ok r =>
        obtain ⟨url, -, rfl, -⟩ := request_of_requestOf hrequest
        rfl

/-- An operation has the same request for journals that are alike. -/
lemma plan_congr {j' : Journal} (h : j.Alike j') : c.plan j' o = c.plan j o := by
  unfold plan
  rw [c.requestOf_congr h]

/-- The requests of a call on a table. -/
lemma sent_tableFootprint (k : Call) :
    (c.tableFootprint ch k).sent =
      (k.tableName >>= fun _ => c.requestOf ch.journal k).toOption.toList := by
  unfold tableFootprint callFootprint
  cases k.tableName with
  | error f => rfl
  | ok table =>
    show _ = (c.requestOf ch.journal k).toOption.toList
    cases c.requestOf ch.journal k <;> rfl

/-- The requests of an operation. -/
lemma sent_footprint : (c.footprint ch o).sent = (c.plan ch.journal o).toOption.toList := by
  unfold footprint plan
  cases o.params with
  | error f => rfl
  | ok params =>
    dsimp only
    rw [Footprint.sent_append, sent_tableFootprint]
    rfl

/-- **An operation sends its request**, and no other. -/
theorem sentBy_eq : c.sentBy ch o = (c.plan ch.journal o).toOption.toList := by
  rw [sentBy, run_perform, Channel.after, sent_footprint]
  exact List.drop_left

variable {ch o}

/-- What an operation sends is its request. -/
lemma mem_sentBy_iff : r ∈ c.sentBy ch o ↔ c.plan ch.journal o = .ok r := by
  rw [sentBy_eq, Option.mem_toList, toOption_eq_some_iff]

end Connection

/-! ### Entries of operations -/

namespace Connection

/-- None of the entries of a call is refused. -/
lemma refusal?_of_mem_callFootprint {j : Journal} {k : Call} {outcome : Outcome} {e : Entry}
    (h : e ∈ (c.callFootprint j k outcome).entries) : j.refusal? e = none := by
  unfold callFootprint at h
  cases hrequest : c.requestOf j k with
  | error f =>
    rw [hrequest] at h
    cases h
  | ok r =>
    rw [hrequest] at h
    obtain ⟨url, -, -, hopening⟩ := request_of_requestOf hrequest
    rcases List.mem_cons.1 h with rfl | h
    · exact hopening
    · exact Journal.refusal?_of_mem_admitted h

/-- None of the entries of a call on a table is refused. -/
lemma refusal?_of_mem_tableFootprint {k : Call} {method : Text} (hmethod : k.method = .text method)
    {e : Entry} (h : e ∈ (c.tableFootprint ch k).entries) : ch.journal.refusal? e = none := by
  unfold tableFootprint at h
  cases htable : k.tableName with
  | error f =>
    rw [htable] at h
    cases h
  | ok table =>
    rw [htable] at h
    have htracked := k.trackable_context hmethod table
    simp only [Footprint.entries_append, Footprint.entries_writes, List.mem_append,
      List.mem_singleton] at h
    rcases h with hwarning | (rfl | hcall) | rfl
    · unfold warnings at hwarning
      split at hwarning
      · cases hwarning
      · rw [List.mem_singleton.1 hwarning]
        exact ch.journal.refusal?_of_recordable (recordable_warning table) ..
    · exact (htracked.started _ _).1
    · exact c.refusal?_of_mem_callFootprint hcall
    · exact (htracked.completed _ _ _ _).1

/-- **None of the entries of an operation is refused.** -/
theorem refusal?_of_mem_footprint {o : Operation} {e : Entry}
    (h : e ∈ (c.footprint ch o).entries) : ch.journal.refusal? e = none := by
  unfold footprint at h
  rw [Footprint.entries_append, List.mem_append] at h
  rcases h with hbuilt | h
  · exact Journal.refusal?_of_mem_admitted hbuilt
  · cases hparams : o.params with
    | error f =>
      rw [hparams] at h
      cases h
    | ok params =>
      rw [hparams] at h
      exact c.refusal?_of_mem_tableFootprint ch rfl h

end Connection

/-! ### Runs -/

namespace Connection

/-- The operations of a run, each with the channel that it is performed on. -/
def stages : List Operation → Channel → List (Operation × Channel)
  | [], _ => []
  | o :: os, ch => (o, ch) :: stages os ((c.perform o).run ch).2

/-- The operations of the stages of a run are those of the run. -/
lemma map_fst_stages (ops : List Operation) : (c.stages ops ch).map Prod.fst = ops := by
  induction ops generalizing ch with
  | nil => rfl
  | cons o os ih => rw [stages, List.map_cons, ih]

/-- The operation of a stage of a run is one of the run. -/
lemma fst_mem_of_mem_stages {ops : List Operation} {s : Operation × Channel}
    (h : s ∈ c.stages ops ch) : s.1 ∈ ops := by
  rw [← c.map_fst_stages ch ops]
  exact List.mem_map_of_mem h

/-- The journal of a stage of a run is like the one that the run begins with. -/
lemma alike_of_mem_stages {ops : List Operation} {s : Operation × Channel}
    (h : s ∈ c.stages ops ch) : ch.journal.Alike s.2.journal := by
  induction ops generalizing ch with
  | nil => cases h
  | cons o os ih =>
    rw [stages, run_perform] at h
    rcases List.mem_cons.1 h with rfl | h
    · exact .refl _
    · exact (ch.alike_after _).trans (ih _ h)

/-- None of the entries of a run is refused. -/
lemma refusal?_of_mem_joined (ops : List Operation) :
    ∀ e ∈ (Footprint.joined ((c.stages ops ch).map fun s => c.footprint s.2 s.1)).entries,
      ch.journal.refusal? e = none := by
  intro e he
  rw [Footprint.entries_joined, List.flatMap_map, List.mem_flatMap] at he
  obtain ⟨s, hs, he⟩ := he
  rw [← (c.alike_of_mem_stages ch hs).refusal?_eq]
  exact c.refusal?_of_mem_footprint s.2 he

/-- **A run does what its operations do**: its results are theirs, in order, and its footprint is
made up of theirs.

**Proof sketch.** Induction on the run. The first operation leaves its footprint
(`Leaves.perform`), and the run of the others leaves theirs behind it. -/
theorem performAll_eq (ops : List Operation) :
    c.performAll ops ch =
      ((c.stages ops ch).map fun s => c.result s.2.journal s.1 s.2.next,
        ch.after (.joined ((c.stages ops ch).map fun s => c.footprint s.2 s.1))) := by
  induction ops generalizing ch with
  | nil =>
    exact congrArg (Prod.mk []) ch.after_writes_nil.symm
  | cons o os ih =>
    rw [performAll, stages, run_perform]
    dsimp only
    rw [ih, List.map_cons, List.map_cons, Footprint.joined_cons, ← ch.after_append]

end Connection

end TableClient.Client
