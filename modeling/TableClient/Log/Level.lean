import TableClient.Text.Upper
import TableClient.Value.Shown

/-!
# Levels

How severe a log entry is, and from which level on a log keeps entries.

## Main definitions

* `TableClient.Log.Level` — the levels of entries.
* `TableClient.Log.threshold` — the threshold that a setting asks for, by number or by name.
-/

set_option relaxedAutoImplicit false
set_option autoImplicit false

namespace TableClient.Log

/-- The level of an entry. -/
inductive Level where
  | debug
  | info
  | warning
  | error
  | critical
deriving DecidableEq

/-- The number of a level; a more severe level has a larger one. -/
def Level.number : Level → Int
  | debug => 10
  | info => 20
  | warning => 30
  | error => 40
  | critical => 50

/-- The name of a level in entries. -/
def Level.name : Level → String
  | debug => "DEBUG"
  | info => "INFO"
  | warning => "WARNING"
  | error => "ERROR"
  | critical => "CRITICAL"

/-- The numbers of the names that a threshold may be given by. -/
def namedThresholds : List (String × Int) :=
  [("CRITICAL", 50), ("FATAL", 50), ("ERROR", 40), ("WARN", 30), ("WARNING", 30), ("INFO", 20),
   ("DEBUG", 10), ("NOTSET", 0)]

/-- The threshold that a setting asks for. Integers and truth values stand for themselves; anything
else is looked up by its text in capitals, and an unknown name means the level of information. -/
def threshold : Value → Value
  | .int n => .int n
  | .bool b => .bool b
  | v => .int (((namedThresholds.find? (v.shown.upper == ·.1)).map (·.2)).getD 20)

/-- The number of a threshold; a truth value counts as one or zero. -/
def thresholdNumber : Value → Int
  | .int n => n
  | .bool true => 1
  | _ => 0

end TableClient.Log
