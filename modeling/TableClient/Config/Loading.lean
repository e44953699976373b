import TableClient.Config.Environment
import TableClient.Config.Tree
import TableClient.Decimal.Reading
import TableClient.Json.Reader
import TableClient.Log.Journal
import TableClient.Text.Lower
import TableClient.Text.Utf8

/-!
# Loading settings

Settings come in three layers, each laid over the one before: the defaults, the settings file, and
variables of the environment for five of the settings. Secrets come from the environment only and
are kept apart from the tree. What happened while loading is kept as events until they are written
to the log.

A file that is missing, cannot be opened or does not follow the grammar leaves the defaults in
force. A file that is not UTF-8 text, holds an integer of too many digits, is nested too deeply, or
holds a value that is no record ends the loading, and so does a variable whose setting lies below a
value that is no record.

## Main definitions

* `TableClient.Config.FileContent` — what stands under the name of the settings file.
* `TableClient.Config` — loaded settings.
* `TableClient.Config.convert` — the value that the text of a variable stands for.
* `TableClient.Config.load` — the loading of settings.
* `TableClient.Config.flush` — writing the events to the log.
-/

set_option relaxedAutoImplicit false
set_option autoImplicit false

namespace TableClient

namespace Config

/-- The name of the settings file. -/
def fileName : String := "nowclient_config.json"

/-- What stands under the name of the settings file, with the wording of the error that opening or
reading it ends with, if it does. -/
inductive FileContent where
  | absent
  | directory (error : Text)
  | bytes (bs : List UInt8) (error : Text)

/-- Why loading ends, or why a question about settings is refused. -/
inductive Fault where
  /-- The file is not UTF-8 text. -/
  | notUtf8
  /-- The file holds an integer of too many digits. -/
  | hugeInteger
  /-- The values of the file are nested too deeply. -/
  | tooDeep
  /-- The file holds a value that is no record. -/
  | notRecord
  /-- A path leads through a value that is no record, or a value is of a type that cannot be used
  as asked. -/
  | unusableValue
  /-- A name or path is not a text. -/
  | notText
  /-- An item of a list is asked for beyond its end, or an entry that a record does not have. -/
  | noSuchItem
  /-- A secret that must be there is missing. -/
  | missingSecret (name : Text)
  /-- Several secrets that must be there are missing. -/
  | missingSecrets (names : List Text)
deriving DecidableEq

/-- The wording of a reason. -/
def Fault.message : Fault → Text
  | notUtf8 => "the settings file is not UTF-8 text"
  | hugeInteger => "an integer has too many digits"
  | tooDeep => "the values of the settings file are nested too deeply"
  | notRecord => "the settings file holds no record"
  | unusableValue => "a value cannot be used as asked"
  | notText => "a name is not a text"
  | noSuchItem => "there is no such item"
  | missingSecret name => "Required secret '" ++ name ++ "' not found in environment variables"
  | missingSecrets names => "Missing required secrets: " ++ Text.joined ", " names

/-- Something that happened while loading, to be logged. -/
structure Event where
  level : Log.Level
  message : String
  details : Members

end Config

/-- Loaded settings: the tree, the secrets, and the events not yet logged. -/
structure Config where
  tree : Entries
  secrets : Named Text
  pending : List Config.Event

namespace Config

/-- The name of the service that is called unless set otherwise. -/
def defaultService : String := "table"

/-- The namespace of the service unless set otherwise. -/
def defaultScope : String := "now"

/-- The seconds that a request may take unless set otherwise. -/
def defaultTimeout : Int := 30

/-- The level of the log unless set otherwise. -/
def defaultLevel : String := "INFO"

/-- The directory of the log unless set otherwise. -/
def defaultDirectory : String := "logs"

/-- The lowest layer of settings. -/
def defaults : Entries :=
  [(.text "servicenow", .ofMembers
      [("api_name", .text defaultService), ("namespace", .text defaultScope),
       ("timeout", .int defaultTimeout)]),
   (.text "logging", .ofMembers
      [("level", .text defaultLevel), ("dir", .text defaultDirectory)])]

/-- The secrets and their variables. -/
def secretVariables : List (String × String) :=
  [("servicenow_instance", "SERVICENOW_INSTANCE"), ("servicenow_user", "SERVICENOW_USER"),
   ("servicenow_password", "SERVICENOW_PASSWORD")]

/-- The variables that set a setting, with its path, in the order in which they are applied. -/
def settingVariables : List (String × String) :=
  [("SERVICENOW_API_NAME", "servicenow.api_name"), ("SERVICENOW_NAMESPACE", "servicenow.namespace"),
   ("SERVICENOW_TIMEOUT", "servicenow.timeout"), ("LOG_LEVEL", "logging.level"),
   ("LOG_DIR", "logging.dir")]

/-- The truth value that a text names, in any letter case. -/
def truthValue? (t : Text) : Option Bool :=
  let name := t.lower
  if name = "true" then some true else if name = "false" then some false else none

/-- The integer that a text without a dot denotes. -/
def dotlessInt? (t : Text) : Option Int :=
  if t.points.contains (.char '.') then none else Decimal.lenientInt? t

/-- The value that the text of a variable stands for: a truth value, an integer, a number, or the
text itself, whichever fits first. -/
def convert (t : Text) : Value :=
  match truthValue? t with
  | some b => .bool b
  | none =>
    match dotlessInt? t with
    | some n => .int n
    | none =>
      match Decimal.lenient? t with
      | some x => .float x
      | none => .text t

/-- The value that the content of the file denotes, or nothing when the defaults stay in force. -/
def fileValue (bs : List UInt8) : Except Fault (Option Value) :=
  match Text.Utf8.decode? bs with
  | none => .error .notUtf8
  | some cs =>
    match Json.readChars cs with
    | .ok v => .ok (some v)
    | .error .malformed => .ok none
    | .error .hugeInteger => .error .hugeInteger
    | .error .tooDeep => .error .tooDeep

/-- The event of a file that cannot be used. -/
def fileRefused (error : Text) : Event :=
  ⟨.error, "config_file_load_error",
    [("path", .text fileName), ("error", .text error), ("using_defaults", .bool true)]⟩

/-- The defaults with the file laid over them, and the event that tells of it. -/
def fileLayer : FileContent → Except Fault (Entries × Event)
  | .absent =>
    .ok (defaults, ⟨.debug, "config_file_not_found",
      [("path", .text fileName), ("using_defaults", .bool true)]⟩)
  | .directory error => .ok (defaults, fileRefused error)
  | .bytes bs error => do
    match ← fileValue bs with
    | none => return (defaults, fileRefused error)
    | some (.record file) =>
      return (merge defaults file, ⟨.info, "config_file_loaded",
        [("path", .text fileName), ("sections", .list (Keyed.keys file))]⟩)
    | some _ => throw .notRecord

/-- The secrets of an environment; an empty variable counts as missing. -/
def secretsOf (env : Environment) : Named Text :=
  secretVariables.filterMap fun (name, envVar) =>
    (env.get? envVar).bind fun s => if s.isEmpty then none else some (name, s)

/-- The event that tells which secrets there are, by name only. -/
def secretsEvent (secrets : Named Text) : Event :=
  ⟨.debug, "secrets_loaded",
    [("secret_count", .int secrets.length), ("secret_keys", .list (secrets.keys.map .text))]⟩

/-- A tree with the given variables applied in order, and the events that tell of them. -/
def applyVariables (env : Environment) :
    List (String × String) → Entries → Except Fault (Entries × List Event)
  | [], tree => .ok (tree, [])
  | (envVar, path) :: rest, tree =>
    match env.get? envVar with
    | none => applyVariables env rest tree
    | some s =>
      let v := convert s
      match setAt? tree (pathOf path) v with
      | none => .error .unusableValue
      | some tree =>
        (applyVariables env rest tree).map fun (tree, events) =>
          (tree, ⟨.debug, "env_override_applied",
            [("env_var", .text envVar), ("config_path", .text path), ("value", v)]⟩ :: events)

/-- The event that ends the loading. -/
def loadedEvent (secrets : Named Text) (tree : Entries) : Event :=
  ⟨.info, "unified_config_loaded",
    [("config_file", .text fileName), ("secrets_loaded", .int secrets.length),
     ("config_sections", .list tree.keys)]⟩

/-- Loads settings. -/
def load (file : FileContent) (env : Environment) : Except Fault Config := do
  let (tree, fileEvent) ← fileLayer file
  let secrets := secretsOf env
  let (tree, events) ← applyVariables env settingVariables tree
  return ⟨tree, secrets, fileEvent :: secretsEvent secrets :: events ++ [loadedEvent secrets tree]⟩

/-- Writes the pending events to the log, in order. -/
def flush (c : Config) (j : Log.Journal) : Config × Log.Journal :=
  ({ c with pending := [] },
   c.pending.foldl (fun j e => j.record .config e.level e.message e.details) j)

end Config

end TableClient
