import Mathlib.Data.List.Forall2
import Mathlib.Logic.Basic
import TableClient.Proofs.Client.Addresses

set_option relaxedAutoImplicit false
set_option autoImplicit false

/-!
# Reports of failed requests

An operation reports a fault when its request is rejected or meets a failure of the transport, and
only then. Every other fault has nothing to do with what came of a request, except a failure that
is not of the transport, which is passed on as it is. The entries of the reports are the only severe
ones that operations write, so that the file of errors accounts for the reported faults of a run,
one line each.

## Main definitions

* `TableClient.Client.OperationFault.Wraps`, `TableClient.Client.OperationFault.Reports` — the two
  shapes of a reported fault.
* `TableClient.Client.OperationFault.Line` — the lines that account for a reported fault.
* `TableClient.Client.reported?` — the reported fault that a computation fails with.
* `TableClient.Client.Connection.report?` — the report of an operation: its entry and its fault.

## Main results

* `TableClient.Client.Connection.reported?_result` — operations fail with the faults of their
  reports.
* `TableClient.Client.Connection.severe_footprint` — the severe entries of an operation.
* `TableClient.Client.Connection.faults_accounted` — the reported faults of a run.
-/

namespace TableClient.Client

open Log (Entry Journal)

/-! ### Shapes of reported faults -/

namespace OperationFault

variable (fault : OperationFault) (host : Value)

/-- The fault wraps a failure of the transport. -/
structure Wraps (x : Failure) : Prop where
  transport : x.isTransport = true
  failure : fault.failure? = some x
  cause : fault.cause? = some x
  status : fault.status? = none
  message : fault.message = lead host ++ "Error: " ++ x.text

/-- The fault reports a response that is a rejection. -/
structure Reports (r : Response) : Prop where
  rejection : r.isRejection = true
  failure : fault.failure? = none
  cause : fault.cause? = none
  status : fault.status? = some r.status
  message : fault.message =
    lead host ++ "Error code: " ++ Numeral.intText r.status ++ ", error: " ++ r.reasonValue.shown

/-- A line is read as a record with the kind of the failure that the fault wraps, or with the status
that it reports. -/
def Line (line : String) : Prop :=
  ∃ members : Members, Json.read line = .ok (.ofMembers members) ∧
    ((∃ x, fault.failure? = some x ∧ members.get? "error_type" = some (.text x.kind)) ∨
      ∃ status, fault.status? = some status ∧ members.get? "status_code" = some (.int status))

end OperationFault

/-- The reported fault that a fault is, if it is one. -/
def Fault.reported? : Fault → Option OperationFault
  | operation fault => some fault
  | _ => none

/-- The reported fault that a computation fails with, if it fails with one. -/
def reported? {α : Type} : Except Fault α → Option OperationFault
  | .error f => f.reported?
  | .ok _ => none

/-- A computation fails with a reported fault when that is its fault. -/
lemma reported?_eq_some_iff {α : Type} {x : Except Fault α} {fault : OperationFault} :
    reported? x = some fault ↔ x = .error (.operation fault) := by
  constructor
  · intro h
    cases x with
    | ok a => cases h
    | error f =>
      cases f with
      | operation g => cases h; rfl
      | _ => cases h
  · rintro rfl
    rfl

/-- The fault for an unreachable instance wraps the failure. -/
lemma OperationFault.wraps_unreachable {x : Failure} (host : Value) (h : x.isTransport = true) :
    (unreachable host x).Wraps host x := ⟨h, rfl, rfl, rfl, rfl⟩

/-- The fault for a rejecting instance reports the response. -/
lemma OperationFault.reports_rejected {r : Response} (host : Value) (h : r.isRejection = true) :
    (rejected host r.status r.reasonValue).Reports host r := ⟨h, rfl, rfl, rfl, rfl⟩

/-- A fault that wraps a failure is the one for an unreachable instance. -/
lemma OperationFault.Wraps.eq_unreachable {fault : OperationFault} {host : Value} {x : Failure}
    (h : fault.Wraps host x) : fault = .unreachable host x := by
  obtain ⟨message, failure?, status?, cause?⟩ := fault
  obtain ⟨-, rfl, rfl, rfl, rfl⟩ := h
  rfl

/-- A fault that reports a response is the one for a rejecting instance. -/
lemma OperationFault.Reports.eq_rejected {fault : OperationFault} {host : Value} {r : Response}
    (h : fault.Reports host r) : fault = .rejected host r.status r.reasonValue := by
  obtain ⟨message, failure?, status?, cause?⟩ := fault
  obtain ⟨-, rfl, rfl, rfl, rfl⟩ := h
  rfl

/-! ### Computations without reports -/

/-- A computation that is followed by one without reports. -/
lemma reported?_bind {α β : Type} {f : α → Except Fault β} (hf : ∀ a, reported? (f a) = none)
    (x : Except Fault α) : reported? (x >>= f) = reported? x := by
  cases x with
  | error f => rfl
  | ok a => exact hf a

/-- The parameter of a query has no report. -/
lemma reported?_queryMembers (v : Value) : reported? (queryMembers v) = none := by
  unfold queryMembers
  split
  · split <;> rfl
  · rfl

/-- The parameter of names of fields has no report. -/
lemma reported?_fieldsParam (v : Value) : reported? (fieldsParam v) = none := by
  unfold fieldsParam
  split
  · split <;> rfl
  · rfl

/-- A parameter with the text of a value has no report. -/
lemma reported?_shownParam (p : Parameter) (v : Value) : reported? (shownParam p v) = none := by
  unfold shownParam
  split <;> rfl

/-- The parameter of a limit has no report. -/
lemma reported?_limitParam (v : Value) : reported? (limitParam v) = none := by
  unfold limitParam
  split
  · rfl
  · split
    · exact reported?_shownParam .limit _
    · rfl

/-- The parameter of an offset has no report. -/
lemma reported?_offsetParam (v : Value) : reported? (offsetParam v) = none := by
  unfold offsetParam
  split
  · rfl
  · exact reported?_shownParam .offset v

/-- The parameters of a listing have no report. -/
lemma reported?_members (f : Filter) : reported? f.members = none := by
  unfold Filter.members
  rw [reported?_bind, reported?_queryMembers]
  intro query
  rw [reported?_bind, reported?_fieldsParam]
  intro fields
  rw [reported?_bind, reported?_limitParam]
  intro limit
  rw [reported?_bind, reported?_offsetParam]
  exact fun offset => rfl

/-- The parameters of an operation have no report. -/
lemma reported?_params (o : Operation) : reported? o.params = none := by
  cases o with
  | list table filter =>
    exact (reported?_bind (fun _ => rfl) _).trans (reported?_members filter)
  | count table query =>
    refine (reported?_bind (fun _ => rfl) _).trans ?_
    exact (reported?_bind (fun _ => rfl) _).trans (reported?_members _)
  | _ => rfl

/-- The name of the table of a call has no report. -/
lemma reported?_tableName (k : Call) : reported? k.tableName = none := by
  have htable : reported? k.table = none := by
    unfold Call.table
    split <;> rfl
  unfold Call.tableName
  split
  · rfl
  · rfl
  · rename_i f h
    rwa [h] at htable

/-- A member that must be there has no report. -/
lemma reported?_requireMember (v : Value) (name : String) :
    reported? (requireMember v name) = none := by
  unfold requireMember
  split
  · split <;> rfl
  · rfl

/-- The number of records in a body has no report. -/
lemma reported?_recordCount (v : Value) : reported? (recordCount v) = none := by
  unfold recordCount
  split
  · split
    · dsimp only
      split
      · split <;> rfl
      · rfl
    · rfl
  · rfl

/-- What an operation makes of an answer has no report. -/
lemma reported?_finish (o : Operation) (v : Value) : reported? (o.finish v) = none := by
  have hid : reported? (recordId v) = none :=
    (reported?_bind (reported?_requireMember · _) _).trans (reported?_requireMember v _)
  cases o with
  | count table query => exact reported?_recordCount v
  | create table body => exact hid
  | update table body id => exact hid
  | _ => rfl

/-- The value that a call answers with has no report. -/
lemma reported?_answer (k : Call) (r : Response) : reported? (k.answer r) = none := by
  unfold Call.answer
  split
  · cases r.decoded <;> rfl
  · rename_i s _
    cases s.pick r <;> rfl

/-- Where a call is to be sent to has no report. -/
lemma Connection.reported?_requestOf (c : Connection) (j : Journal) (k : Call) :
    reported? (c.requestOf j k) = none := by
  unfold requestOf
  split
  · rfl
  · split <;> rfl

/-- The request of an operation has no report. -/
lemma Connection.reported?_plan (c : Connection) (j : Journal) (o : Operation) :
    reported? (c.plan j o) = none := by
  unfold plan
  rw [reported?_bind, reported?_params]
  intro params
  rw [reported?_bind, reported?_tableName]
  exact fun table => c.reported?_requestOf j _

/-! ### Reports of operations -/

namespace Connection

variable (c : Connection) (ch : Channel)

/-- The report about a request that meets an outcome: the entry and the fault. -/
def reportOf? (r : Request) : Outcome → Option (Entry × OperationFault)
  | .response response =>
    if response.isRejection then
      some (r.rejected response, .rejected c.host response.status response.reasonValue)
    else none
  | .failure f => if f.isTransport then some (r.failed f, .unreachable c.host f) else none

/-- The report of an operation, if there is something to report about its request. -/
def report? (o : Operation) : Option (Entry × OperationFault) :=
  (c.plan ch.journal o).toOption.bind (c.reportOf? · ch.next)

/-- A request is settled with the fault of its report. -/
lemma reported?_settled (j : Journal) (k : Call) {r : Request} (outcome : Outcome)
    (hmethod : Json.fault? r.method (maxNesting - 1) = none) :
    reported? (c.settled j k r outcome) = (c.reportOf? r outcome).map Prod.snd := by
  unfold reportOf?
  cases outcome with
  | response response =>
    dsimp only
    split
    · rename_i hrejection
      rw [c.settled_of_isRejection j k hmethod hrejection]
      rfl
    · rename_i haccepted
      rw [c.settled_of_accepted j k haccepted]
      split
      · rfl
      · exact reported?_answer k response
  | failure f =>
    dsimp only
    split
    · rename_i htransport
      rw [c.settled_of_isTransport j k hmethod htransport]
      rfl
    · rename_i hother
      rw [c.settled_of_not_isTransport j k hother]
      rfl

/-- The severe ones among the closing entries of a request are those of its report. -/
lemma severe_closing (j : Journal) {r : Request} (outcome : Outcome)
    (hmethod : Json.fault? r.method (maxNesting - 1) = none) :
    (j.admitted (r.closing? outcome).toList).filter (fun e => Journal.isSevere e.level) =
      ((c.reportOf? r outcome).map Prod.fst).toList := by
  unfold Request.closing? reportOf? Journal.admitted
  cases outcome with
  | response response =>
    dsimp only
    split
    · rename_i hrejection
      rw [Option.toList_some, List.filter_singleton,
        Request.refusal?_rejected hmethod hrejection]
      rfl
    · rw [Option.toList_some, List.filter_singleton]
      cases j.refusal? (r.accepted response) <;> rfl
  | failure f =>
    dsimp only
    split
    · rw [Option.toList_some, List.filter_singleton, Request.refusal?_failed hmethod]
      rfl
    · rfl

/-- A warning is not severe. -/
lemma severe_warnings (table : Text) :
    (warnings table).filter (fun e => Journal.isSevere e.level) = [] := by
  unfold warnings
  split <;> rfl

/-- The entry of a query is not severe. -/
lemma severe_builtEntries (j : Journal) (v : Value) :
    (j.admitted (builtEntries v)).filter (fun e => Journal.isSevere e.level) = [] := by
  have hbuilt : (builtEntries v).filter (fun e => Journal.isSevere e.level) = [] := by
    unfold builtEntries
    split
    · split <;> rfl
    · rfl
  rw [Journal.admitted, List.filter_comm, hbuilt]
  rfl

/-- The severe entries of a call on a table are those of the report about its request. -/
lemma severe_tableFootprint {k : Call} (hmethod : Json.fault? k.method (maxNesting - 1) = none) :
    (c.tableFootprint ch k).entries.filter (fun e => Journal.isSevere e.level) =
      (((k.tableName >>= fun _ => c.requestOf ch.journal k).toOption.bind
        (c.reportOf? · ch.next)).map Prod.fst).toList := by
  unfold tableFootprint
  cases k.tableName with
  | error f => rfl
  | ok table =>
    have hcall : (c.callFootprint ch.journal k ch.next).entries.filter
        (fun e => Journal.isSevere e.level) =
          (((c.requestOf ch.journal k).toOption.bind (c.reportOf? · ch.next)).map
            Prod.fst).toList := by
      unfold callFootprint
      cases hrequest : c.requestOf ch.journal k with
      | error f => rfl
      | ok r =>
        obtain ⟨url, -, rfl, -⟩ := request_of_requestOf hrequest
        exact c.severe_closing ch.journal ch.next hmethod
    have hstarted : [k.started table].filter (fun e => Journal.isSevere e.level) = [] := rfl
    have hcompleted : [k.completed ch table].filter (fun e => Journal.isSevere e.level) = [] := rfl
    simp only [Footprint.entries_append, Footprint.entries_writes, List.filter_append,
      severe_warnings, hstarted, hcall, hcompleted, List.nil_append, List.append_nil]
    rfl

/-- **Operations fail with the faults of their reports**, and with no other reported faults. -/
theorem reported?_result (o : Operation) :
    reported? (c.result ch.journal o ch.next) = (c.report? ch o).map Prod.snd := by
  have hplan := c.reported?_plan ch.journal o
  rw [result_eq, report?]
  cases h : c.plan ch.journal o with
  | error f =>
    rw [h] at hplan
    exact hplan
  | ok r =>
    exact (reported?_bind (reported?_finish o) _).trans
      (c.reported?_settled ch.journal _ ch.next (method_of_plan h))

/-- **The severe entries of an operation** are those of its report. -/
theorem severe_footprint (o : Operation) :
    (c.footprint ch o).entries.filter (fun e => Journal.isSevere e.level) =
      ((c.report? ch o).map Prod.fst).toList := by
  unfold footprint report? plan
  rw [Footprint.entries_append, Footprint.entries_writes, List.filter_append,
    severe_builtEntries, List.nil_append]
  cases o.params with
  | error f => rfl
  | ok params => exact c.severe_tableFootprint ch (Json.fault?_text _ _)

/-- **The line of a report accounts for its fault.** -/
theorem line_of_reportOf {r : Request} {outcome : Outcome} {e : Entry} {fault : OperationFault}
    {j : Journal} (h : c.reportOf? r outcome = some (e, fault)) (hj : j.Detailed)
    (hentry : j.refusal? e = none) (now : DateTime) : fault.Line (j.lineOf (e, now)) := by
  have hline : e.fault? now j.correlation = none := by
    rw [e.fault?_eq_of_now j.clock.day.next]
    exact hj.lineFault?_eq_none hentry
  -- the names of the details are fixed, and the correlation id is none of them
  have hread {name : Text} {v : Value} (hname : ("correlation_id" : Text) ≠ name)
      (hget : (e.members now none).get? name = some v)
      (hnames : ∀ detail ∈ e.details, ∃ cs, detail.1 = .ofChars cs) :
      ∃ members : Members, Json.read (j.lineOf (e, now)) = .ok (.ofMembers members) ∧
        members.get? name = some (Json.image v) := by
    obtain ⟨members, hmembers, hvalues⟩ := Entry.read_line_members hline hnames
    refine ⟨members, hmembers, ?_⟩
    rw [hvalues, e.get?_members now j.correlation hname, hget, Option.map_some]
  unfold reportOf? at h
  cases outcome with
  | response response =>
    dsimp only at h
    split at h
    · cases h
      obtain ⟨members, hmembers, hvalue⟩ := @hread "status_code" (.int response.status) (by decide)
        rfl (by simp [Request.rejected, Request.entry, Log.Component.entry, Request.details,
          Text.exists_ofString_eq])
      refine ⟨members, hmembers, .inr ⟨response.status, rfl, hvalue.trans ?_⟩⟩
      rw [Json.image]
    · cases h
  | failure f =>
    dsimp only at h
    split at h
    · cases h
      obtain ⟨members, hmembers, hvalue⟩ := @hread "error_type" (.text f.kind) (by decide) rfl
        (by simp [Request.failed, Request.entry, Log.Component.entry, Request.details,
          Text.exists_ofString_eq])
      have hkind : Json.Faithful (.text f.kind) := .text f.kind.toList
      refine ⟨members, hmembers, .inl ⟨f, rfl, hvalue.trans ?_⟩⟩
      rw [Json.image_of_faithful hkind]
    · cases h

/-- What is reported about a response has its shape. -/
lemma reports_iff_reportOf (r : Request) (response : Response) (fault : OperationFault) :
    fault.Reports c.host response ↔ ∃ e, c.reportOf? r (.response response) = some (e, fault) := by
  constructor
  · intro h
    have hrejection := h.rejection
    obtain rfl := h.eq_rejected
    exact ⟨r.rejected response, if_pos hrejection⟩
  · rintro ⟨e, h⟩
    unfold reportOf? at h
    dsimp only at h
    split at h
    · rename_i hrejection
      cases h
      exact OperationFault.reports_rejected c.host hrejection
    · cases h

/-- What is reported about a failure has its shape. -/
lemma wraps_iff_reportOf (r : Request) (x : Failure) (fault : OperationFault) :
    fault.Wraps c.host x ↔ ∃ e, c.reportOf? r (.failure x) = some (e, fault) := by
  constructor
  · intro h
    have htransport := h.transport
    obtain rfl := h.eq_unreachable
    exact ⟨r.failed x, if_pos htransport⟩
  · rintro ⟨e, h⟩
    unfold reportOf? at h
    dsimp only at h
    split at h
    · rename_i htransport
      cases h
      exact OperationFault.wraps_unreachable c.host htransport
    · cases h

/-- The faults of reports are those of the two shapes, by the outcome that they are about. -/
lemma shape_iff_reportOf (r : Request) (outcome : Outcome) (fault : OperationFault) :
    Xor (∃ x, outcome = .failure x ∧ fault.Wraps c.host x)
        (∃ response, outcome = .response response ∧ fault.Reports c.host response) ↔
      ∃ e, c.reportOf? r outcome = some (e, fault) := by
  cases outcome with
  | response response => simp [xor_def, ← c.reports_iff_reportOf]
  | failure x => simp [xor_def, ← c.wraps_iff_reportOf]

/-! ### Reports of runs -/

/-- The reports of the operations of a run. -/
def reports (ops : List Operation) : List (Entry × OperationFault) :=
  (c.stages ops ch).filterMap fun s => c.report? s.2 s.1

variable (ops : List Operation)

/-- The reported faults of a run are those of its reports. -/
lemma reported?_performAll :
    (c.performAll ops ch).1.filterMap reported? = (c.reports ch ops).map Prod.snd := by
  rw [c.performAll_eq, reports, List.filterMap_map, List.map_filterMap]
  exact List.filterMap_congr fun s _ => c.reported?_result s.2 s.1

/-- The severe entries of a run are those of its reports. -/
lemma severe_joined :
    (Footprint.joined ((c.stages ops ch).map fun s => c.footprint s.2 s.1)).entries.filter
      (fun e => Journal.isSevere e.level) = (c.reports ch ops).map Prod.fst := by
  rw [Footprint.entries_joined, List.flatMap_map, List.filter_flatMap, reports, List.map_filterMap,
    List.filterMap_eq_flatMap_toList]
  exact List.flatMap_congr fun s _ => c.severe_footprint s.2 s.1

variable {ch} in
/-- **The file of errors has a line for each report of a run**, in order, which accounts for its
fault. -/
theorem lines_of_reports (hj : ch.journal.Detailed) :
    ∃ lines, (c.performAll ops ch).2.journal.linesOf .errors =
        ch.journal.linesOf .errors ++ lines ∧
      List.Forall₂ (fun report line => report.2.Line line) (c.reports ch ops) lines := by
  let entries := (Footprint.joined ((c.stages ops ch).map fun s => c.footprint s.2 s.1)).entries
  let severe := (ch.journal.clock.day.along entries).filter fun s => Journal.isSevere s.1.level
  have hsevere : entries.filter (fun e => Journal.isSevere e.level) =
      (c.reports ch ops).map Prod.fst := c.severe_joined ch ops
  have hstamped : severe.map Prod.fst = (c.reports ch ops).map Prod.fst := by
    have hmap := List.filter_map (f := Prod.fst) (p := fun e : Entry => Journal.isSevere e.level)
      (l := ch.journal.clock.day.along entries)
    rw [Log.Readings.map_fst_along] at hmap
    exact hmap.symm.trans hsevere
  have hpairs : List.Forall₂ (fun report s => report.1 = s.1) (c.reports ch ops) severe := by
    have hsame : List.Forall₂ Eq ((c.reports ch ops).map Prod.fst) (severe.map Prod.fst) := by
      rw [hstamped]
      exact List.forall₂_refl _
    exact List.forall₂_map_right_iff.1 (List.forall₂_map_left_iff.1 hsame)
  have hreports : ∀ report ∈ c.reports ch ops, ch.journal.refusal? report.1 = none ∧
      ∃ r outcome, c.reportOf? r outcome = some report := by
    intro report hreport
    have hmem : report.1 ∈ entries.filter fun e => Journal.isSevere e.level := by
      rw [hsevere]
      exact List.mem_map_of_mem hreport
    obtain ⟨s, -, hs⟩ := List.mem_filterMap.1 hreport
    obtain ⟨r, -, hof⟩ := Option.bind_eq_some_iff.1 hs
    exact ⟨c.refusal?_of_mem_joined ch ops _ (List.mem_of_mem_filter hmem), r, _, hof⟩
  refine ⟨severe.map ch.journal.lineOf, ?_, ?_⟩
  · rw [c.performAll_eq, Channel.linesOf_errors_after hj]
  · rw [List.forall₂_map_right_iff]
    refine ((List.forall₂_and_left ..).2 ⟨hreports, hpairs⟩).imp ?_
    rintro ⟨e, fault⟩ ⟨_, now⟩ ⟨⟨hentry, r, outcome, hof⟩, rfl⟩
    exact c.line_of_reportOf hof hj hentry now

/-- **Reported faults are accounted for.** In a run, an operation fails with a reported fault
exactly when it has sent one request and the fault has one of two shapes: it wraps the failure of
the transport that the request met, or it reports the rejecting response. A failure that is not of
the transport is passed on as it is. When the journal keeps all entries, the lines that the run adds
to the file of errors correspond to the reported faults among its results, in order, each with the
kind of the failure or the status of the response.

**Proof sketch.** Every operation has at most one report, an entry with a fault. Its fault is the
reported one that the operation fails with (`reported?_result`), and its entry is the severe one
that the operation writes (`severe_footprint`). Faults and lines of a run therefore both come from
the reports of its operations (`reported?_performAll`, `lines_of_reports`). -/
theorem faults_accounted (c : Connection) {ch : Channel} (hj : ch.journal.Detailed)
    (ops : List Operation) :
    (∀ s ∈ c.stages ops ch, ∀ fault,
      ((c.perform s.1).run s.2).1 = .error (.operation fault) ↔
      (c.sentBy s.2 s.1).length = 1 ∧
        Xor (∃ x, s.2.next = .failure x ∧ fault.Wraps c.host x)
          (∃ response, s.2.next = .response response ∧ fault.Reports c.host response)) ∧
    (∀ s ∈ c.stages ops ch, ∀ x, c.sentBy s.2 s.1 ≠ [] → s.2.next = .failure x →
      x.isTransport = false → ((c.perform s.1).run s.2).1 = .error (.other x)) ∧
    (c.performAll ops ch).1 = (c.stages ops ch).map (fun s => ((c.perform s.1).run s.2).1) ∧
    ∃ lines, (c.performAll ops ch).2.journal.linesOf .errors =
        ch.journal.linesOf .errors ++ lines ∧
      List.Forall₂ OperationFault.Line ((c.performAll ops ch).1.filterMap reported?) lines := by
  have hrun (o : Operation) (ch : Channel) :
      ((c.perform o).run ch).1 = c.result ch.journal o ch.next := by
    rw [run_perform]
  refine ⟨fun s hs fault => ?_, fun s hs x hsent hx hother => ?_, ?_, ?_⟩
  · rw [hrun, ← reported?_eq_some_iff, reported?_result, report?, sentBy_eq]
    cases (c.plan s.2.journal s.1).toOption with
    | none => simp
    | some r =>
      rw [c.shape_iff_reportOf r]
      simp
  · obtain ⟨r, hr⟩ := List.exists_mem_of_ne_nil _ hsent
    rw [hrun, result_eq, c.mem_sentBy_iff.1 hr, hx]
    show c.settled s.2.journal (s.1.call r.params) r (.failure x) >>= s.1.finish = _
    rw [c.settled_of_not_isTransport _ _ (by rw [hother]; exact Bool.false_ne_true)]
    rfl
  · rw [c.performAll_eq]
    exact List.map_congr_left fun s hs => (hrun s.1 s.2).symm
  · obtain ⟨lines, hlines, haccounted⟩ := c.lines_of_reports ops hj
    refine ⟨lines, hlines, ?_⟩
    rw [c.reported?_performAll, List.forall₂_map_left_iff]
    exact haccounted

/-- A record is fetched twice from an instance that is too slow and then without the record: two
faults are reported, and two lines account for them, in this order. -/
theorem faults_accounted_fetch :
    let o : Operation := .fetch (.text "incident") (.text "1")
    let slow : Failure := ⟨"Timeout", "slow", true⟩
    let missing : Response := .ofUtf8 404 (some "Not Found") [] []
    let ch : Channel := .fresh [.failure slow, .response missing] .plain
    ∃ first second, (plain.performAll [o, o] ch).2.journal.linesOf .errors = [first, second] ∧
      (OperationFault.unreachable plain.host slow).Line first ∧
      (OperationFault.rejected plain.host missing.status missing.reasonValue).Line second := by
  intro o slow missing ch
  let names : List (List Char) := ["incident".toList, "1".toList]
  have hnamed : o.NamedBy names := rfl
  have hsent (ch : Channel) : plain.sentBy ch o = [plain.requestFor o names .null] :=
    sentBy_of_sendable hnamed ⟨rfl, fun _ => Json.fault?_null _⟩
  obtain ⟨later, hdone⟩ : ∃ later, ((plain.perform o).run ch).2 = later := ⟨_, rfl⟩
  have hlater : later.next = .response missing := by
    have hplan : plain.plan ch.journal o = .ok (plain.requestFor o names .null) := by
      rw [← plain.mem_sentBy_iff, hsent]
      exact List.mem_singleton_self _
    have hfootprint : (plain.footprint ch o).sent = [plain.requestFor o names .null] := by
      rw [sent_footprint, hplan]
      rfl
    rw [← hdone, run_perform, Channel.next, Channel.after, hfootprint]
    rfl
  obtain ⟨hreported, -, hresults, lines, hlines, hfaults⟩ :=
    @faults_accounted plain ch Log.Journal.detailed_plain [o, o]
  have hstages : plain.stages [o, o] ch = [(o, ch), (o, later)] := by
    rw [stages, stages, stages, hdone]
  rw [hstages, List.forall_mem_cons, List.forall_mem_singleton] at hreported
  rw [hstages] at hresults
  have hfirst : ((plain.perform o).run ch).1 =
      .error (.operation (.unreachable plain.host slow)) := by
    refine (hreported.1 _).2 ⟨by rw [hsent]; rfl, .inl ⟨?_, ?_⟩⟩
    · exact ⟨slow, rfl, OperationFault.wraps_unreachable _ rfl⟩
    · rintro ⟨response, hresponse, -⟩
      cases hresponse
  have hsecond : ((plain.perform o).run later).1 =
      .error (.operation (.rejected plain.host missing.status missing.reasonValue)) := by
    refine (hreported.2 _).2 ⟨by rw [hsent]; rfl, .inr ⟨?_, ?_⟩⟩
    · exact ⟨missing, hlater, OperationFault.reports_rejected _ rfl⟩
    · rintro ⟨x, hx, -⟩
      cases hlater.symm.trans hx
  rw [hresults, List.map_cons, List.map_singleton, hfirst, hsecond] at hfaults
  obtain _ | ⟨h1, _ | ⟨h2, _ | _⟩⟩ := hfaults
  exact ⟨_, _, hlines, h1, h2⟩

end Connection

end TableClient.Client
