import TableClient.Log.Entry

/-!
# The journal

A journal keeps the lines that were logged, with the clock and the correlation id that entries are
stamped with. It writes an entry when its level reaches the threshold, either to one stream or to
the file of its component; severe entries go to the file of errors as well. An entry that cannot be
written is refused and leaves no trace.

The lines of a file are all that were ever written to it. On disk a file that is full is moved aside
and begun anew; what becomes of its parts is told apart from what is written.

Performance is tracked by a pair of entries around a block: one when it starts and one when it ends
in whatever way, with the time between them.

## Main definitions

* `TableClient.Log.Readings`, `TableClient.Log.Clock` — what the clock will show.
* `TableClient.Log.Journal` — the state of a journal.
* `TableClient.Log.Journal.destinations` — where an entry goes, or why it is refused.
* `TableClient.Log.Journal.write`, `TableClient.Log.Journal.tryWrite` — logging an entry.
* `TableClient.Log.Journal.record` — logging an entry of a component of the program.
* `TableClient.Log.track` — the pair of entries around a block.
-/

set_option relaxedAutoImplicit false
set_option autoImplicit false

namespace TableClient.Log

/-- Where the entries of a journal go. -/
inductive Routing where
  /-- To the file of the component, and to the file of errors. -/
  | files
  /-- All to one stream. -/
  | stream
deriving DecidableEq

/-- What readings will show: the next one, and those after it; the last one repeats. -/
structure Readings (α : Type) where
  next : α
  later : List α

/-- The readings after the next one. -/
def Readings.rest {α : Type} (r : Readings α) : Readings α :=
  match r.later with
  | [] => r
  | a :: later => ⟨a, later⟩

/-- The readings of the clock. -/
structure Clock where
  /-- The times that the entries which are written will be stamped with. -/
  day : Readings DateTime
  /-- The readings of the timer, in seconds. -/
  timer : Readings Binary64

/-- A journal: its settings, the clock, the correlation id and the lines written so far. -/
structure Journal where
  routing : Routing
  threshold : Int
  clock : Clock
  correlation : Option CorrelationId
  lines : List (File × String)

/-- A state that has a journal as a part. -/
class Journaled (σ : Type) where
  journal : σ → Journal
  withJournal : σ → Journal → σ

instance : Journaled Journal := ⟨id, fun _ j => j⟩

/-- The parts of the program that log. -/
inductive Component where
  | requests
  | query
  | config
deriving DecidableEq

/-- The name of a component in entries. -/
def Component.name : Component → String
  | requests => "servicenow"
  | query => "query"
  | config => "config"

/-- An entry of a component of the program, named by its first detail. -/
def Component.entry (component : Component) (level : Level) (message : String)
    (details : Members) : Entry :=
  ⟨level, .text message, ("component", .text component.name) :: details⟩

/-- The correlation id that is set when none is given. -/
def freshCorrelation : CorrelationId := ⟨.text "00000000-0000-4000-8000-000000000000", rfl⟩

namespace Journal

/-- The journal without lines and correlation id. -/
def empty (routing : Routing) (threshold : Int) (clock : Clock) : Journal :=
  ⟨routing, threshold, clock, none, []⟩

/-- The journal with a correlation id set. -/
def setCorrelation (j : Journal) (id : CorrelationId) : Journal :=
  { j with correlation := some id }

/-- The journal without a correlation id. -/
def clearCorrelation (j : Journal) : Journal := { j with correlation := none }

/-- Reads the timer. -/
def readTimer (j : Journal) : Binary64 × Journal :=
  (j.clock.timer.next, { j with clock := { j.clock with timer := j.clock.timer.rest } })

/-- Whether the journal keeps entries of a level. A stream without a threshold keeps warnings and
everything more severe. -/
def keeps (j : Journal) (level : Level) : Bool :=
  match j.routing with
  | .files => j.threshold ≤ level.number
  | .stream => (if j.threshold = 0 then 30 else j.threshold) ≤ level.number

/-- Whether entries of a level belong to the file of errors. -/
def isSevere (level : Level) : Bool := Level.error.number ≤ level.number

/-- The files of an entry whose own file is given. -/
def withErrors (own : List File) (level : Level) : List File :=
  if isSevere level then own ++ [.errors] else own

/-- The files that an entry with the given component detail goes to. The component `_errors` stands
for the file of errors itself, which keeps severe entries only. -/
def filesOf (level : Level) (component : Value) : Except Fault (List File) :=
  if component.isTruthy then
    if component.isHashable then
      match component with
      | .text name =>
        if name = "_errors" then .ok (withErrors (if isSevere level then [.errors] else []) level)
        else
          let own := ((componentFiles.find? (name == ·.1)).map (·.2)).getD .system
          .ok (withErrors [own] level)
      | _ => .ok (withErrors [.system] level)
    else .error .unusableComponent
  else .ok (withErrors [.system] level)

/-- Why the line of an entry cannot be put together at the time of the next reading, if it
cannot. -/
def lineFault? (j : Journal) (e : Entry) : Option WriteFault :=
  e.fault? j.clock.day.next j.correlation

/-- The files that an entry is written to, or why it is refused. A stream is given the line of every
entry, those that it does not keep as well. -/
def destinations (j : Journal) (e : Entry) : Except Fault (List File) :=
  if reservedNames.any (e.details.has ·) then .error .reservedName
  else
    match j.routing with
    | .stream =>
      match j.lineFault? e with
      | some f => .error (.unwritable f)
      | none => .ok (if j.keeps e.level then [.stream] else [])
    | .files =>
      if j.keeps e.level then
        match j.lineFault? e with
        | some f => .error (.unwritable f)
        | none => filesOf e.level ((e.details.get? "component").getD .null)
      else .ok []

/-- The journal with the line of an entry added to the given files, if there are any. -/
def put (j : Journal) (files : List File) (e : Entry) : Journal :=
  if files.isEmpty then j
  else
    let line := e.line j.clock.day.next j.correlation
    { j with
      lines := j.lines ++ files.map fun f => (f, line)
      clock := { j.clock with day := j.clock.day.rest } }

/-- Logs an entry. -/
def write (j : Journal) (e : Entry) : Except Fault Journal :=
  (j.destinations e).map (j.put · e)

/-- Logs an entry, or keeps the journal and the reason for refusing it. -/
def tryWrite (j : Journal) (e : Entry) : Except Fault Unit × Journal :=
  match j.write e with
  | .ok j => (.ok (), j)
  | .error f => (.error f, j)

/-- Logs an entry of a component of the program whose details are texts, numbers and lists of texts.
Such an entry is not refused: no count has as many digits as integers may not have. -/
def record (j : Journal) (component : Component) (level : Level) (message : String)
    (details : Members) : Journal :=
  (j.tryWrite (component.entry level message details)).2

end Journal

/-- The reason for refusing the last entry of a block because of a reserved name. -/
def reservedAfter {ε α : Type} : Except ε α → Fault
  | .ok _ => .reservedName
  | .error _ => .reservedAfterFailure

/-- Runs a block between an entry that it started and an entry that it completed, which gives the
seconds in between to three places. The block is not run when the operation has no text or the first
entry is refused; when the last one is, that is the result of the whole. -/
def track {σ ε α : Type} [Journaled σ] (refuse : Fault → ε) (operation : Value) (context : Members)
    (block : σ → Except ε α × σ) (s : σ) : Except ε α × σ :=
  if context.has "self" || context.has "operation" then (.error (refuse .reservedName), s)
  else
    let (start, j) := (Journaled.journal s).readTimer
    match operation.showFault? maxNesting with
    | some f => (.error (refuse (.unwritable f)), Journaled.withJournal s j)
    | none =>
      let label := operation.shown
      let started : Entry :=
        ⟨.debug, .text (label ++ "_started"), ("operation", operation) :: context⟩
      match j.tryWrite started with
      | (.error f, j) => (.error (refuse f), Journaled.withJournal s j)
      | (.ok (), j) =>
        let (result, s) := block (Journaled.withJournal s j)
        let (stop, j) := (Journaled.journal s).readTimer
        let duration := Value.float ((stop.sub start).roundPlaces 3)
        let details : Members :=
          ("operation", operation) :: ("duration_seconds", duration) :: context
        if context.has "duration_seconds" then
          (.error (refuse (reservedAfter result)), Journaled.withJournal s j)
        else
          match j.tryWrite ⟨.info, .text (label ++ "_completed"), details⟩ with
          | (.error f, j) => (.error (refuse f), Journaled.withJournal s j)
          | (.ok (), j) => (result, Journaled.withJournal s j)

end TableClient.Log
