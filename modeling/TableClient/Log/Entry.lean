import TableClient.Json.Writer
import TableClient.Log.Level

/-!
# Log entries

An entry is one line of JSON: the time, the level, the message and the details, in this order, and
last the correlation id if one is set. A detail of the same name as an earlier part replaces it
where it stands. An entry that cannot be written as JSON is refused.

## Main definitions

* `TableClient.Log.Entry` — the entries.
* `TableClient.Log.CorrelationId` — what marks the entries that belong together.
* `TableClient.Log.Entry.members`, `TableClient.Log.Entry.line` — an entry as a record, as a line.
* `TableClient.Log.Entry.fault?` — why an entry has no line.
* `TableClient.Log.File` — the files that entries are written to.
* `TableClient.Log.Fault` — why an entry is refused.
-/

set_option relaxedAutoImplicit false
set_option autoImplicit false

namespace TableClient.Log

/-- A log entry: level, message and named details. -/
structure Entry where
  level : Level
  message : Value
  details : Members

/-- A file of log lines. -/
inductive File where
  /-- Requests, responses and queries. -/
  | requests
  /-- Everything about the program itself. -/
  | system
  /-- The severe entries of all files. -/
  | errors
  /-- The one stream of a log without files. -/
  | stream
deriving DecidableEq

/-- The name of a file. -/
def File.name : File → String
  | requests => "servicenow.log"
  | system => "system.log"
  | errors => "errors.log"
  | stream => "logger"

/-- The components that have a file. -/
def componentFiles : List (String × File) :=
  [("servicenow", .requests), ("query", .requests), ("system", .system), ("config", .system)]

/-- Why an entry is refused. -/
inductive Fault where
  /-- A detail has a name that is reserved. -/
  | reservedName
  /-- A detail of the last entry of a block has a name that is reserved, and the block failed. -/
  | reservedAfterFailure
  /-- The component is a value that cannot be looked up. -/
  | unusableComponent
  /-- A value of the entry cannot be written. -/
  | unwritable (f : WriteFault)
deriving DecidableEq

/-- A correlation id, which can be written as a part of an entry. -/
structure CorrelationId where
  value : Value
  writable : Json.fault? value (maxNesting - 1) = none

/-- The names that no detail of an entry may have. -/
def reservedNames : List String := ["self", "message", "level"]

/-- The time of an entry as text. -/
def timeText (now : DateTime) : String := { now with offset := none }.isoText "T" ++ "Z"

/-- An entry as a record. A correlation id that does not count as set is left out. -/
def Entry.members (e : Entry) (now : DateTime) (correlation : Option CorrelationId) : Members :=
  let base : Members :=
    [("timestamp", .text (timeText now)), ("level", .text e.level.name), ("message", e.message)]
  let all := base.insertAll e.details
  match correlation with
  | some id => if id.value.isTruthy then all.insert "correlation_id" id.value else all
  | none => all

/-- Why an entry has no line, if it has none. -/
def Entry.fault? (e : Entry) (now : DateTime) (correlation : Option CorrelationId) :
    Option WriteFault :=
  Json.fault? (.ofMembers (e.members now correlation)) maxNesting

/-- The line of an entry that can be written. -/
def Entry.line (e : Entry) (now : DateTime) (correlation : Option CorrelationId) : String :=
  Json.write (.ofMembers (e.members now correlation))

end TableClient.Log
