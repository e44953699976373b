import TableClient.Config.Access
import TableClient.Session.LogFiles

/-!
# The shared settings and the shared log

One set of settings and one log are shared by everything. Each is created on first use and kept:
the settings are loaded from the file and the environment, with the variables of the dotenv file
filled in where they are not set, and the log is opened in the directory and with the level that
the settings ask for. Loading settings logs what happened, so it opens the log; opening the log
needs the settings, so it loads them. Settings are kept before the log is opened, which is why
either may be asked for first.

## Main definitions

* `TableClient.Session.Shared` — what is shared, and what it is created from.
* `TableClient.Session.Shared.logIn` — opening the log.
* `TableClient.Session.Shared.settings`, `TableClient.Session.Shared.log` — asking for either.
* `TableClient.Session.Shared.reset` — forgetting the settings.
-/

set_option relaxedAutoImplicit false
set_option autoImplicit false

namespace TableClient.Session

/-- An open log: its directory, the level it was opened with, and its journal. -/
structure OpenLog where
  directory : Path
  level : Value
  journal : Log.Journal

/-- The shared settings and the shared log, if they are there, and what they are created from. -/
structure Shared where
  file : Config.FileContent
  environment : Config.Environment
  dotenv : Config.Environment
  clock : Log.Clock
  settings? : Option Config
  log? : Option OpenLog

/-- Why the settings or the log are not available. -/
inductive Fault where
  | settings (f : Config.Fault)
  | directory (f : DirectoryFault)
deriving DecidableEq

namespace Shared

/-- The environment with the variables of the dotenv file filled in. -/
def fillEnvironment (s : Shared) : Shared :=
  { s with environment := s.environment.insertMissing s.dotenv }

/-- Forgets the settings, so that they are loaded anew. -/
def reset (s : Shared) : Shared := { s with settings? := none }

/-- The path of a directory, provided that a log can be kept there. -/
def directoryOf (file : Config.FileContent) (directory : Text) : Except DirectoryFault Path := do
  let path := Path.ofText directory
  prepareLog file path
  return path

/-- The log, which is opened in a directory and with a level unless it is open. -/
def logIn (s : Shared) (directory : Text) (level : Value) : Except Fault OpenLog × Shared :=
  match s.log? with
  | some log => (.ok log, s)
  | none =>
    match directoryOf s.file directory with
    | .error f => (.error (.directory f), s)
    | .ok path =>
      let log : OpenLog := ⟨path, level, .empty .files (Log.thresholdNumber level) s.clock⟩
      (.ok log, { s with log? := some log })

/-- The log, which is opened as the settings ask for unless it is open. -/
def openLog (s : Shared) (c : Config) : Except Fault OpenLog × Shared :=
  s.logIn c.logDirectory (Log.threshold c.logLevel)

mutual

/-- The shared settings. They are kept before the log is asked for, which asks for them in turn, and
their events are written to it then. -/
def settings (s : Shared) : Except Fault Config × Shared :=
  match _unset : s.settings? with
  | some c => (.ok c, s)
  | none =>
    let filled := s.fillEnvironment
    match Config.load filled.file filled.environment with
    | .error f => (.error (.settings f), filled)
    | .ok c =>
      match log { filled with settings? := some c } with
      | (.error f, s) => (.error f, s)
      | (.ok opened, s) =>
        let (c, journal) := c.flush opened.journal
        (.ok c, { s with settings? := some c, log? := some { opened with journal := journal } })
-- settings that are kept are not loaded when the log asks for them
termination_by 2 * s.settings?.isNone.toNat
decreasing_by simp [*]

/-- The shared log. Asking for the settings may have opened it. -/
def log (s : Shared) : Except Fault OpenLog × Shared :=
  match s.log? with
  | some opened => (.ok opened, s)
  | none =>
    match settings s with
    | (.error f, s) => (.error f, s)
    | (.ok c, s) => s.openLog c
termination_by 2 * s.settings?.isNone.toNat + 1
decreasing_by omega

end

end Shared

end TableClient.Session
