import TableClient.Proofs.Computation
import TableClient.Proofs.Config.Events
import TableClient.Proofs.Config.Precedence
import TableClient.Proofs.Log.Routing
import TableClient.Session.Shared

set_option relaxedAutoImplicit false
set_option autoImplicit false

/-!
# The first use of what is shared

Loading the settings ends with writing its events to the log, and opening the log begins with
asking for the settings; so each of the two may be asked for first, and asks for the other on the
way. It makes no difference: the same settings and the same log are there afterwards, or the same
fault is met. The events are the first lines of the log, and whatever is done with the log later,
the same log is there.

## Main definitions

* `TableClient.Session.Shared.unused` — what is shared before anything was asked for.
* `TableClient.Session.Shared.Refuses` — why nothing can be shared.
* `TableClient.Session.Shared.started` — what is shared after the first use.
* `TableClient.Session.OpenLog.Continues` — a log that is the same with lines added.
* `TableClient.Session.Use` — what may be done with what is shared.

## Main results

* `TableClient.Session.Shared.settings_unused`, `TableClient.Session.Shared.log_unused` — the first
  use, by way of the settings and by way of the log.
* `TableClient.Session.Shared.continues_after`, `TableClient.Session.Shared.continues_afterAll` —
  the log that is there stays there.
* `TableClient.Session.Shared.first_use_order` — the order of the first use makes no difference.
-/

namespace TableClient.Config

/-- The entry of an event. -/
def Event.entry (e : Event) : Log.Entry := Log.Component.config.entry e.level e.message e.details

variable {c : Config} {j : Log.Journal}

/-- Writing events that can be logged writes their entries to the file of the system, and leaves no
event pending. -/
lemma flush_eq (hc : ∀ e ∈ c.pending, Log.Recordable e.details) (j : Log.Journal) :
    c.flush j = ({ c with pending := [] }, j.enterAll .system (c.pending.map Event.entry)) := by
  have hrecord (j : Log.Journal) (e : Event) (he : e ∈ c.pending) :
      j.record .config e.level e.message e.details = j.enter .system e.entry :=
    j.record_eq (hc e he) ..
  rw [flush, Log.Journal.enterAll, List.foldl_map]
  exact congrArg _ (List.foldl_ext _ _ _ hrecord)

/-- Writing events that can be logged adds the lines that are due for them. -/
lemma linesOf_flush (hc : ∀ e ∈ c.pending, Log.Recordable e.details) (hj : j.routing = .files)
    (f : Log.File) :
    (c.flush j).2.linesOf f = j.linesOf f ++ j.due (c.pending.map Event.entry) f := by
  have hhome : ∀ e ∈ c.pending.map Event.entry, e.home = .system :=
    List.forall_mem_map.2 fun _ _ => rfl
  rw [flush_eq hc]
  exact Log.Journal.linesOf_enterAll_due hj hhome f

end TableClient.Config

namespace TableClient.Log.Journal

variable {j j' j'' : Journal} {e : Entry}

/-- A journal that is the same with lines added. -/
structure Extends (j j' : Journal) : Prop where
  alike : j.Alike j'
  lines : j.lines <+: j'.lines

/-- No line need be added. -/
lemma Extends.refl (j : Journal) : j.Extends j := ⟨.refl j, List.prefix_refl _⟩

/-- Lines are added behind each other. -/
lemma Extends.trans (h : j.Extends j') (h' : j'.Extends j'') : j.Extends j'' :=
  ⟨h.alike.trans h'.alike, h.lines.trans h'.lines⟩

/-- Adding the line of an entry to files adds lines. -/
lemma extends_put (j : Journal) (files : List File) (e : Entry) : j.Extends (j.put files e) := by
  refine ⟨j.alike_put files e, ?_⟩
  unfold put
  split
  · exact List.prefix_refl _
  · exact List.prefix_append _ _

/-- Entries for a file add lines. -/
lemma extends_enterAll (j : Journal) (own : File) (es : List Entry) :
    j.Extends (j.enterAll own es) := by
  induction es generalizing j with
  | nil => exact .refl j
  | cons e es ih => exact (j.extends_put _ e).trans (ih _)

/-- An entry adds lines, or is refused and adds none. -/
lemma extends_tryWrite (j : Journal) (e : Entry) : j.Extends (j.tryWrite e).2 := by
  rw [tryWrite, write]
  cases j.destinations e with
  | error f => exact .refl j
  | ok files => exact j.extends_put files e

end TableClient.Log.Journal

namespace TableClient.Session

namespace Shared

variable {s : Shared} {c loaded : Config} {opened : OpenLog} {path : Path}

/-! ### Asking for the settings and for the log -/

/-- Settings that are kept are there. -/
lemma settings_of_some (h : s.settings? = some c) : s.settings = (.ok c, s) := by
  rw [settings]
  split
  · rename_i c' h'
    rw [Option.some.inj (h.symm.trans h')]
  · rename_i h'
    cases h.symm.trans h'

/-- A log that is open is there. -/
lemma log_of_some (h : s.log? = some opened) : s.log = (.ok opened, s) := by
  rw [log, h]

/-- A log that is open is there, whatever directory and level are asked for. -/
lemma logIn_of_some (h : s.log? = some opened) (directory : Text) (level : Value) :
    s.logIn directory level = (.ok opened, s) := by
  rw [logIn, h]

/-- What is shared once the settings were loaded, or were tried to be: the environment is filled in,
and the settings are kept if there are any. -/
def loading (s : Shared) (loaded? : Option Config) : Shared :=
  { s.fillEnvironment with settings? := loaded? }

/-- Settings that are not kept are loaded, and their events are written once the log is there. -/
lemma settings_of_none (h : s.settings? = none) :
    s.settings =
      match Config.load s.file (s.environment.insertMissing s.dotenv) with
      | .error f => (.error (.settings f), s.loading none)
      | .ok loaded =>
        match (s.loading (some loaded)).log with
        | (.error f, s) => (.error f, s)
        | (.ok opened, s) =>
          (.ok { loaded with pending := [] },
            { s with
              settings? := some { loaded with pending := [] },
              log? := some { opened with journal := (loaded.flush opened.journal).2 } }) := by
  have hnone : s.loading none = s.fillEnvironment := by
    rw [loading, ← h]
    rfl
  rw [settings, hnone]
  split
  · rename_i h'
    cases h.symm.trans h'
  · rfl

/-- A log that is not open is opened as the settings ask for. -/
lemma log_of_none (h : s.log? = none) :
    s.log = match s.settings with
      | (.error f, s) => (.error f, s)
      | (.ok c, s) => s.openLog c := by
  rw [log]
  split
  · rename_i h'
    cases h.symm.trans h'
  · rfl

/-! ### The first use -/

/-- What is shared before anything was asked for. -/
def unused (file : Config.FileContent) (environment dotenv : Config.Environment)
    (clock : Log.Clock) : Shared :=
  ⟨file, environment, dotenv, clock, none, none⟩

/-- The log that settings ask for, with the lines of their events. -/
def startedLog (s : Shared) (loaded : Config) (path : Path) : OpenLog :=
  let level := Log.threshold loaded.logLevel
  ⟨path, level, (loaded.flush (.empty .files (Log.thresholdNumber level) s.clock)).2⟩

/-- What is shared after the first use: settings without events, and their log. -/
def started (s : Shared) (loaded : Config) (path : Path) : Shared :=
  { s.fillEnvironment with
    settings? := some { loaded with pending := [] }
    log? := some (s.startedLog loaded path) }

/-- Why nothing can be shared: the settings cannot be loaded, or the log that they ask for cannot be
kept in its directory. -/
inductive Refuses (s : Shared) : Fault → Option Config → Prop where
  | settings {f : Config.Fault} :
    Config.load s.file (s.environment.insertMissing s.dotenv) = .error f →
    Refuses s (.settings f) none
  | directory {loaded : Config} {f : DirectoryFault} :
    Config.load s.file (s.environment.insertMissing s.dotenv) = .ok loaded →
    directoryOf s.file loaded.logDirectory = .error f →
    Refuses s (.directory f) (some loaded)

/-- A directory in which a log can be kept. -/
lemma openLog_of_ok (hlog : s.log? = none) (hpath : directoryOf s.file c.logDirectory = .ok path) :
    let level := Log.threshold c.logLevel
    let opened : OpenLog := ⟨path, level, .empty .files (Log.thresholdNumber level) s.clock⟩
    s.openLog c = (.ok opened, { s with log? := some opened }) := by
  rw [openLog, logIn, hlog]
  dsimp only
  rw [hpath]

/-- A directory in which no log can be kept. -/
lemma openLog_of_error {f : DirectoryFault} (hlog : s.log? = none)
    (hpath : directoryOf s.file c.logDirectory = .error f) :
    s.openLog c = (.error (.directory f), s) := by
  rw [openLog, logIn, hlog]
  dsimp only
  rw [hpath]

/-- The log is opened as the settings ask for that were just loaded. -/
lemma log_loading (hlog : s.log? = none) :
    (s.loading (some loaded)).log = (s.loading (some loaded)).openLog loaded := by
  have hnone : (s.loading (some loaded)).log? = none := hlog
  have hsome : (s.loading (some loaded)).settings? = some loaded := rfl
  rw [log_of_none hnone, settings_of_some hsome]

/-- **The first use that succeeds**, by way of the settings. -/
theorem settings_unused (hsettings : s.settings? = none) (hlog : s.log? = none)
    (hload : Config.load s.file (s.environment.insertMissing s.dotenv) = .ok loaded)
    (hpath : directoryOf s.file loaded.logDirectory = .ok path) :
    s.settings = (.ok { loaded with pending := [] }, s.started loaded path) := by
  have hopened := openLog_of_ok (s := s.loading (some loaded)) (c := loaded) hlog hpath
  rw [settings_of_none hsettings, hload]
  dsimp only
  rw [log_loading hlog, hopened]
  rfl

/-- **The first use that fails**, by way of the settings. -/
theorem settings_refused {f : Fault} {loaded? : Option Config} (hsettings : s.settings? = none)
    (hlog : s.log? = none) (h : s.Refuses f loaded?) :
    s.settings = (.error f, s.loading loaded?) := by
  cases h with
  | settings hload => rw [settings_of_none hsettings, hload]
  | @directory loaded f hload hpath =>
    have hopened := openLog_of_error (s := s.loading (some loaded)) (c := loaded) hlog hpath
    rw [settings_of_none hsettings, hload]
    dsimp only
    rw [log_loading hlog, hopened]

/-- **The first use**, by way of the log: it asks for the settings, which open the log. -/
theorem log_unused (hsettings : s.settings? = none) (hlog : s.log? = none)
    (hload : Config.load s.file (s.environment.insertMissing s.dotenv) = .ok loaded)
    (hpath : directoryOf s.file loaded.logDirectory = .ok path) :
    s.log = (.ok (s.startedLog loaded path), s.started loaded path) := by
  rw [log_of_none hlog, settings_unused hsettings hlog hload hpath]
  exact logIn_of_some rfl _ _

/-- **The first use that fails**, by way of the log. -/
theorem log_refused {f : Fault} {loaded? : Option Config} (hsettings : s.settings? = none)
    (hlog : s.log? = none) (h : s.Refuses f loaded?) :
    s.log = (.error f, s.loading loaded?) := by
  rw [log_of_none hlog, settings_refused hsettings hlog h]

/-- Settings that are asked for first are loaded, and the log is open then. -/
lemma of_settings_unused {t : Shared} (hfresh : s.settings? = none)
    (h : s.settings = (.ok c, t)) :
    ∃ loaded opened, Config.load s.file s.fillEnvironment.environment = .ok loaded ∧
      c = { loaded with pending := [] } ∧ t.log? = some opened := by
  rw [settings_of_none hfresh] at h
  cases hload : Config.load s.file (s.environment.insertMissing s.dotenv) with
  | error f =>
    rw [hload] at h
    cases h
  | ok loaded =>
    rw [hload] at h
    dsimp only at h
    split at h
    · cases h
    · cases h
      exact ⟨loaded, _, hload, rfl, rfl⟩

/-- A log can be kept in the directory that it has by default. -/
lemma directoryOf_default :
    directoryOf .absent Config.defaultDirectory = .ok (Path.ofText Config.defaultDirectory) := by
  have hprepared : (prepareLog .absent (Path.ofText Config.defaultDirectory)).isOk = true := by
    decide +kernel
  cases hp : prepareLog .absent (Path.ofText Config.defaultDirectory) with
  | error f =>
    rw [hp] at hprepared
    cases hprepared
  | ok _ =>
    rw [directoryOf, hp]
    rfl

/-- Without a file and another directory of the log, the settings are available. -/
lemma exists_settings_absent {env dotenv : Config.Environment} (clock : Log.Clock)
    (hdirectory : (env.insertMissing dotenv).get? Config.Setting.directory.envVar = none) :
    ∃ c t, (unused .absent env dotenv clock).settings = (.ok c, t) := by
  have hgroups : ∀ setting : Config.Setting,
      (env.insertMissing dotenv).get? setting.envVar ≠ none →
      Config.FileContent.absent.SparesGroup setting := fun _ _ _ _ h => nomatch h
  have haccepted : Config.FileContent.absent.Accepted := trivial
  obtain ⟨tree, htree⟩ := (Config.exists_setAll_changes_iff .absent _).2 hgroups
  obtain ⟨loaded, hload, -⟩ := Config.exists_load haccepted htree
  have hvalue := Config.value_of_load hload .directory
  rw [hdirectory] at hvalue
  have hlogs : loaded.logDirectory = Config.defaultDirectory := Value.text.inj hvalue
  exact ⟨_, _, settings_unused rfl rfl hload (hlogs ▸ directoryOf_default)⟩

/-! ### Later uses -/

end Shared

/-- What may be done with what is shared. -/
inductive Use where
  | settings
  | log
  /-- Asks for the log in another directory and with another level. -/
  | logIn (directory : Text) (level : Value)
  /-- Logs an entry. -/
  | write (e : Log.Entry)
  /-- Forgets the settings. -/
  | reset

/-- An open log that is the same with lines added. -/
structure OpenLog.Continues (opened later : OpenLog) : Prop where
  directory : later.directory = opened.directory
  level : later.level = opened.level
  journal : opened.journal.Extends later.journal

/-- No line need be added. -/
lemma OpenLog.Continues.refl (opened : OpenLog) : opened.Continues opened := ⟨rfl, rfl, .refl _⟩

/-- Lines are added behind each other. -/
lemma OpenLog.Continues.trans {opened later last : OpenLog} (h : opened.Continues later)
    (h' : later.Continues last) : opened.Continues last :=
  ⟨h'.directory.trans h.directory, h'.level.trans h.level, h.journal.trans h'.journal⟩

namespace Shared

variable {s : Shared} {c loaded : Config} {opened : OpenLog} {path : Path}

/-- What is shared after a use. -/
def after (s : Shared) : Use → Shared
  | .settings => s.settings.2
  | .log => s.log.2
  | .logIn directory level => (s.logIn directory level).2
  | .write e =>
    match s.log with
    | (.ok opened, s) =>
      { s with log? := some { opened with journal := (opened.journal.tryWrite e).2 } }
    | (.error _, s) => s
  | .reset => s.reset

/-- What is shared after several uses. -/
def afterAll (s : Shared) (uses : List Use) : Shared := uses.foldl after s

/-- Asking for the settings leaves the log that is open, with the lines of their events. -/
lemma continues_settings (h : s.log? = some opened) :
    ∃ later, s.settings.2.log? = some later ∧ opened.Continues later := by
  cases hsettings : s.settings? with
  | some c =>
    rw [settings_of_some hsettings]
    exact ⟨opened, h, .refl opened⟩
  | none =>
    rw [settings_of_none hsettings]
    cases hload : Config.load s.file (s.environment.insertMissing s.dotenv) with
    | error f => exact ⟨opened, h, .refl opened⟩
    | ok loaded =>
      have hopen : (s.loading (some loaded)).log? = some opened := h
      dsimp only
      rw [log_of_some hopen]
      refine ⟨_, rfl, rfl, rfl, ?_⟩
      rw [Config.flush_eq (Config.recordable_of_load hload)]
      exact opened.journal.extends_enterAll _ _

/-- **A use leaves the log that is open**, with lines added at most. -/
theorem continues_after (h : s.log? = some opened) (u : Use) :
    ∃ later, (s.after u).log? = some later ∧ opened.Continues later := by
  cases u with
  | settings => exact continues_settings h
  | log =>
    rw [after, log_of_some h]
    exact ⟨opened, h, .refl opened⟩
  | logIn directory level =>
    rw [after, logIn_of_some h]
    exact ⟨opened, h, .refl opened⟩
  | write e =>
    rw [after, log_of_some h]
    exact ⟨_, rfl, rfl, rfl, opened.journal.extends_tryWrite e⟩
  | reset => exact ⟨opened, h, .refl opened⟩

/-- **Uses leave the log that is open**, with lines added at most. -/
theorem continues_afterAll (h : s.log? = some opened) (uses : List Use) :
    ∃ later, (s.afterAll uses).log? = some later ∧ opened.Continues later := by
  induction uses generalizing s opened with
  | nil => exact ⟨opened, h, .refl opened⟩
  | cons u uses ih =>
    obtain ⟨next, hnext, hcontinues⟩ := continues_after h u
    obtain ⟨later, hlater, hrest⟩ := ih hnext
    exact ⟨later, hlater, hcontinues.trans hrest⟩

/-- A use leaves the settings that are kept, unless it forgets them. -/
lemma settings?_after (hsettings : s.settings? = some c) (hlog : s.log? = some opened) {u : Use}
    (hu : u ≠ .reset) : (s.after u).settings? = some c := by
  cases u with
  | settings => rw [after, settings_of_some hsettings, hsettings]
  | log => rw [after, log_of_some hlog, hsettings]
  | logIn directory level => rw [after, logIn_of_some hlog, hsettings]
  | write e =>
    rw [after, log_of_some hlog]
    exact hsettings
  | reset => exact absurd rfl hu

/-- Uses leave the settings that are kept, unless one forgets them. -/
lemma settings?_afterAll (hsettings : s.settings? = some c) (hlog : s.log? = some opened)
    {uses : List Use} (huses : Use.reset ∉ uses) : (s.afterAll uses).settings? = some c := by
  induction uses generalizing s opened with
  | nil => exact hsettings
  | cons u uses ih =>
    rw [List.mem_cons, not_or] at huses
    obtain ⟨next, hnext, -⟩ := continues_after hlog u
    exact ih (settings?_after hsettings hlog (Ne.symm huses.1)) hnext huses.2

/-! ### The order of the first use -/

/-- What is there whichever way it is asked for: the settings and the log. -/
structure Serves (s : Shared) (c : Config) (opened : OpenLog) : Prop where
  settings : s.settings = (.ok c, s)
  log : s.log = (.ok opened, s)
  logIn (directory : Text) (level : Value) : s.logIn directory level = (.ok opened, s)

/-- Settings and a log that are kept are there. -/
lemma serves_of_some (hsettings : s.settings? = some c) (hlog : s.log? = some opened) :
    s.Serves c opened :=
  ⟨settings_of_some hsettings, log_of_some hlog, logIn_of_some hlog⟩

/-- **It makes no difference what is asked for first**, the settings or the log.

Either both are refused for the same reason, and leave the same. Or the settings that are loaded
are there, without events, and the log that they ask for, with the lines of the events: each that is
kept once in each file that it belongs in, in order. Both are there again however they are asked
for. And whatever is done then, the log that is there stays the same, but for lines that are added
behind the others; and so do the settings, until they are forgotten.

**Proof sketch.** Settings that are loaded are kept before the log is asked for, which finds them
and is opened as they ask for (`Shared.log_loading`); so that the log asks for settings that open it
on the way (`Shared.settings_unused`, `Shared.log_unused`). The lines are those that are due
(`Config.linesOf_flush`). The rest is by induction on what is done (`Shared.continues_afterAll`). -/
theorem first_use_order (file : Config.FileContent) (environment dotenv : Config.Environment)
    (clock : Log.Clock) :
    let s := unused file environment dotenv clock
    (∃ f loaded?, s.Refuses f loaded? ∧
      s.settings = (.error f, s.loading loaded?) ∧ s.log = (.error f, s.loading loaded?)) ∨
    ∃ loaded opened t,
      Config.load file (environment.insertMissing dotenv) = .ok loaded ∧
      s.settings = (.ok { loaded with pending := [] }, t) ∧ s.log = (.ok opened, t) ∧
      t.Serves { loaded with pending := [] } opened ∧
      opened.directory = Path.ofText loaded.logDirectory ∧
      opened.level = Log.threshold loaded.logLevel ∧
      (∀ f, opened.journal.linesOf f =
        (Log.Journal.empty .files (Log.thresholdNumber opened.level) clock).due
          (loaded.pending.map Config.Event.entry) f) ∧
      ∀ uses, ∃ later, opened.Continues later ∧
        (t.afterAll uses).log = (.ok later, t.afterAll uses) ∧
        (∀ directory level,
          (t.afterAll uses).logIn directory level = (.ok later, t.afterAll uses)) ∧
        (Use.reset ∉ uses → (t.afterAll uses).Serves { loaded with pending := [] } later) := by
  intro s
  cases hload : Config.load file (environment.insertMissing dotenv) with
  | error f =>
    have hrefuses : s.Refuses (.settings f) none := .settings hload
    exact .inl ⟨_, _, hrefuses, settings_refused rfl rfl hrefuses, log_refused rfl rfl hrefuses⟩
  | ok loaded =>
    cases hpath : directoryOf file loaded.logDirectory with
    | error f =>
      have hrefuses : s.Refuses (.directory f) (some loaded) := .directory hload hpath
      exact .inl ⟨_, _, hrefuses, settings_refused rfl rfl hrefuses, log_refused rfl rfl hrefuses⟩
    | ok path =>
      have hdirectory : path = Path.ofText loaded.logDirectory := by
        obtain ⟨_, -, h⟩ := bind_eq_ok_iff.1 hpath
        exact (Except.ok.inj h).symm
      refine .inr ⟨loaded, s.startedLog loaded path, s.started loaded path, rfl,
        settings_unused rfl rfl hload hpath, log_unused rfl rfl hload hpath,
        serves_of_some rfl rfl, hdirectory, rfl, ?_, ?_⟩
      · intro f
        exact Config.linesOf_flush (Config.recordable_of_load hload) rfl f
      · intro uses
        obtain ⟨later, hlater, hcontinues⟩ :=
          continues_afterAll (s := s.started loaded path) rfl uses
        exact ⟨later, hcontinues, log_of_some hlater, logIn_of_some hlater, fun huses =>
          serves_of_some (settings?_afterAll rfl rfl huses) hlater⟩

/-- Without a file and without variables the log is opened with its defaults, whichever is asked for
first, and the one event that it keeps is a line of the file of the system. -/
theorem first_use_order_defaults :
    let s := unused .absent [] [] Log.Journal.plain.clock
    ∃ c opened t, s.settings = (.ok c, t) ∧ s.log = (.ok opened, t) ∧
      opened.directory = Path.ofText "logs" ∧ opened.level = .int 20 ∧
      (opened.journal.linesOf .system).length = 1 ∧ opened.journal.linesOf .errors = [] := by
  intro s
  -- of the events only the levels matter, and not what they say
  obtain ⟨loaded, m, ds, m', ds', m'', ds'', hload, hpending⟩ :
      ∃ loaded m ds m' ds' m'' ds'', Config.load .absent [] = .ok loaded ∧
        loaded.pending = [⟨.debug, m, ds⟩, ⟨.debug, m', ds'⟩, ⟨.info, m'', ds''⟩] :=
    ⟨_, _, _, _, _, _, _, rfl, rfl⟩
  have hname : loaded.logLevel = .text "INFO" := Config.value_of_load hload .level
  have hdirectory : loaded.logDirectory = "logs" :=
    Value.text.inj (Config.value_of_load hload .directory)
  have hlevel : Log.threshold (.text "INFO") = .int 20 := by
    have hupper : Text.upper "INFO" = "INFO" := by decide +kernel
    simp only [Log.threshold, Value.shown, hupper]
    rfl
  have hprepared : (prepareLog .absent (Path.ofText "logs")).isOk = true := by decide +kernel
  obtain ⟨f, loaded?, hrefuses, -, -⟩ | ⟨_, opened, t, h, hsettings, hlog, -, hopened⟩ :=
    first_use_order .absent [] [] Log.Journal.plain.clock
  · cases hrefuses with
    | settings h => cases h.symm.trans hload
    | directory h hrefused =>
      cases h.symm.trans hload
      rw [hdirectory] at hrefused
      cases hp : prepareLog .absent (Path.ofText "logs") with
      | error g =>
        rw [hp] at hprepared
        cases hprepared
      | ok _ =>
        have hok : directoryOf .absent "logs" = .ok (Path.ofText "logs") := by
          rw [directoryOf, hp]
          rfl
        cases hok.symm.trans hrefused
  · cases h.symm.trans hload
    obtain ⟨hthere, hthreshold, hlines, -⟩ := hopened
    rw [hname, hlevel] at hthreshold
    rw [hdirectory] at hthere
    rw [hpending, hthreshold] at hlines
    exact ⟨_, opened, t, hsettings, hlog, hthere, hthreshold, by rw [hlines]; rfl,
      by rw [hlines]; rfl⟩

end Shared

end TableClient.Session
