import TableClient.Proofs.Config.Conversion
import TableClient.Proofs.Session.FirstUse

set_option relaxedAutoImplicit false
set_option autoImplicit false

/-!
# What a refused attempt leaves behind

The settings and the log may be asked for again after a refusal, when the file of settings or the
place of the log has changed. Settings that cannot be loaded leave nothing behind. But when the log
cannot be kept in its directory, the settings stay with their events, and nothing writes these any
more: whoever opens the log later finds the settings kept and asks for no more. So the events are in
the log that is opened in the end exactly when no attempt was refused for its directory.

## Main definitions

* `TableClient.Session.Attempt`, `TableClient.Session.Shared.attemptAll` — attempts, one after the
  other, with the file of settings that each of them finds.
* `TableClient.Session.Stage`, `TableClient.Session.Shared.At` — how far what is shared has come.

## Main results

* `TableClient.Session.Shared.at_attempt` — what one attempt does.
* `TableClient.Session.Shared.kept_of_refused` — what a refused attempt leaves as it was.
* `TableClient.Session.Shared.attempts_told_iff` — when the events are in the log in the end.
-/

namespace TableClient.Config

/-- Settings as they are loaded. -/
def IsLoaded (c : Config) : Prop := ∃ file env, load file env = .ok c

/-- Settings that are loaded have events to tell. -/
lemma IsLoaded.pending_ne_nil {c : Config} (h : c.IsLoaded) : c.pending ≠ [] := by
  obtain ⟨file, env, h⟩ := h
  obtain ⟨_, -, hrest⟩ := bind_eq_ok_iff.1 h
  obtain ⟨_, -, hc⟩ := bind_eq_ok_iff.1 hrest
  cases hc
  exact List.cons_ne_nil _ _

end TableClient.Config

namespace TableClient.Session

/-- What may be asked for. -/
inductive Demand where
  | settings
  | log

/-- An attempt to get something, with the file of settings that it finds. -/
structure Attempt where
  file : Config.FileContent
  demand : Demand

/-- How far what is shared has come. -/
inductive Stage where
  /-- Nothing is there. -/
  | untouched
  /-- Settings are there with their events, and the log is not. -/
  | waiting (loaded : Config)
  /-- Both are there, and the events are in the log. -/
  | told (loaded : Config)
  /-- Both are there, and the events are in the settings still. -/
  | untold (loaded : Config)

namespace Stage

/-- Where an attempt leads that is refused or not. -/
inductive Leads : Stage → Option Fault → Stage → Prop where
  | unloadable (f : Config.Fault) : Leads untouched (some (.settings f)) untouched
  | unopenable (f : DirectoryFault) (loaded : Config) :
    Leads untouched (some (.directory f)) (waiting loaded)
  | tell (loaded : Config) : Leads untouched none (told loaded)
  | wait (loaded : Config) : Leads (waiting loaded) none (waiting loaded)
  | refuse (f : DirectoryFault) (loaded : Config) :
    Leads (waiting loaded) (some (.directory f)) (waiting loaded)
  | skip (loaded : Config) : Leads (waiting loaded) none (untold loaded)
  | told (loaded : Config) : Leads (told loaded) none (told loaded)
  | untold (loaded : Config) : Leads (untold loaded) none (untold loaded)

/-- The settings are there, and their events are not in the log. -/
def Late : Stage → Prop
  | waiting _ | untold _ => True
  | untouched | told _ => False

/-- Events that are not in the log do not get there later, and it is a refusal of the directory that
leaves them out. -/
lemma Leads.late_iff {stage stage' : Stage} {fault? : Option Fault}
    (h : Leads stage fault? stage') :
    stage'.Late ↔ stage.Late ∨ ∃ f, Fault.directory f ∈ fault? := by
  cases h <;> simp [Late]

/-- The settings that are there. -/
def settings? : Stage → Option Config
  | untouched => none
  | waiting loaded | untold loaded => some loaded
  | told loaded => some { loaded with pending := [] }

end Stage

namespace Shared

variable {s : Shared} {a : Attempt} {stage : Stage} {f : Fault}

/-- Why a demand was refused, if it was, and what is shared after it. -/
def ask (s : Shared) : Demand → Option Fault × Shared
  | .settings =>
    match s.settings with
    | (.ok _, s) => (none, s)
    | (.error f, s) => (some f, s)
  | .log =>
    match s.log with
    | (.ok _, s) => (none, s)
    | (.error f, s) => (some f, s)

/-- Why an attempt was refused, if it was, and what is shared after it. -/
def attempt (s : Shared) (a : Attempt) : Option Fault × Shared :=
  ask { s with file := a.file } a.demand

/-- Why attempts were refused, one after the other, and what is shared after them. -/
def attemptAll (s : Shared) : List Attempt → List Fault × Shared
  | [] => ([], s)
  | a :: as =>
    let (faults, last) := (s.attempt a).2.attemptAll as
    ((s.attempt a).1.toList ++ faults, last)

/-- What is shared has come this far. -/
inductive At (s : Shared) : Stage → Prop where
  | untouched : s.settings? = none → s.log? = none → At s .untouched
  | waiting {loaded : Config} :
    loaded.IsLoaded → s.settings? = some loaded → s.log? = none → At s (.waiting loaded)
  | told {loaded : Config} {opened : OpenLog} : loaded.IsLoaded →
    s.settings? = some { loaded with pending := [] } → s.log? = some opened →
    (∀ file, opened.journal.linesOf file =
      (Log.Journal.empty .files (Log.thresholdNumber opened.level) s.clock).due
        (loaded.pending.map Config.Event.entry) file) → At s (.told loaded)
  | untold {loaded : Config} {opened : OpenLog} : loaded.IsLoaded →
    s.settings? = some loaded → s.log? = some opened →
    (∀ file, opened.journal.linesOf file = []) → At s (.untold loaded)

/-- Another file of settings does not change how far what is shared has come. -/
lemma At.visit (h : s.At stage) (file : Config.FileContent) :
    At { s with file := file } stage := by
  cases h with
  | untouched hsettings hlog => exact .untouched hsettings hlog
  | waiting hloaded hsettings hlog => exact .waiting hloaded hsettings hlog
  | told hloaded hsettings hlog hlines => exact .told hloaded hsettings hlog hlines
  | untold hloaded hsettings hlog hlines => exact .untold hloaded hsettings hlog hlines

/-- How far it has come tells the settings that are there. -/
lemma At.settings?_eq (h : s.At stage) : s.settings? = stage.settings? := by
  cases h <;> assumption

/-- There is no log at first, nor while the settings wait for it. -/
lemma At.log?_eq_none_iff (h : s.At stage) :
    s.log? = none ↔ stage = .untouched ∨ ∃ loaded, stage = .waiting loaded := by
  cases h <;> simp [*]

/-- What is there is not refused, and nothing changes. -/
lemma ask_of_some {c : Config} {opened : OpenLog} (hsettings : s.settings? = some c)
    (hlog : s.log? = some opened) (demand : Demand) : s.ask demand = (none, s) := by
  cases demand with
  | settings => rw [ask, settings_of_some hsettings]
  | log => rw [ask, log_of_some hlog]

/-- **The first attempt**, whatever it asks for. -/
lemma at_ask_untouched (hsettings : s.settings? = none) (hlog : s.log? = none) (demand : Demand) :
    ∃ stage, Stage.untouched.Leads (s.ask demand).1 stage ∧ (s.ask demand).2.At stage := by
  have hrefused {f : Fault} {loaded? : Option Config} (h : s.Refuses f loaded?) :
      s.ask demand = (some f, s.loading loaded?) := by
    cases demand with
    | settings => rw [ask, settings_refused hsettings hlog h]
    | log => rw [ask, log_refused hsettings hlog h]
  cases hload : Config.load s.file (s.environment.insertMissing s.dotenv) with
  | error f =>
    rw [hrefused (.settings hload)]
    exact ⟨_, .unloadable f, .untouched rfl hlog⟩
  | ok loaded =>
    have hloaded : loaded.IsLoaded := ⟨_, _, hload⟩
    cases hpath : directoryOf s.file loaded.logDirectory with
    | error f =>
      rw [hrefused (.directory hload hpath)]
      exact ⟨_, .unopenable f loaded, .waiting hloaded rfl hlog⟩
    | ok path =>
      have hstarted : s.ask demand = (none, s.started loaded path) := by
        cases demand with
        | settings => rw [ask, settings_unused hsettings hlog hload hpath]
        | log => rw [ask, log_unused hsettings hlog hload hpath]
      rw [hstarted]
      have hevents := Config.recordable_of_load hload
      exact ⟨_, .tell loaded, .told hloaded rfl rfl fun file =>
        Config.linesOf_flush hevents rfl file⟩

/-- **An attempt with settings that are kept** opens the log at most, and writes nothing to it. -/
lemma at_ask_waiting {loaded : Config} (hloaded : loaded.IsLoaded)
    (hsettings : s.settings? = some loaded) (hlog : s.log? = none) (demand : Demand) :
    ∃ stage, (Stage.waiting loaded).Leads (s.ask demand).1 stage ∧ (s.ask demand).2.At stage := by
  cases demand with
  -- settings that are kept are there, whether their events were written or not
  | settings =>
    rw [ask, settings_of_some hsettings]
    exact ⟨_, .wait loaded, .waiting hloaded hsettings hlog⟩
  | log =>
    have hopen : s.log = s.openLog loaded := by
      rw [log_of_none hlog, settings_of_some hsettings]
    cases hpath : directoryOf s.file loaded.logDirectory with
    | error f =>
      rw [ask, hopen, openLog_of_error hlog hpath]
      exact ⟨_, .refuse f loaded, .waiting hloaded hsettings hlog⟩
    | ok path =>
      rw [ask, hopen, openLog_of_ok hlog hpath]
      exact ⟨_, .skip loaded, .untold hloaded hsettings rfl fun _ => rfl⟩

/-- **What one attempt does**: it leads on, and what it leads to is shared then. -/
theorem at_attempt (h : s.At stage) (a : Attempt) :
    ∃ stage', stage.Leads (s.attempt a).1 stage' ∧ (s.attempt a).2.At stage' := by
  have hvisit := h.visit a.file
  unfold attempt
  cases hvisit with
  | untouched hsettings hlog => exact at_ask_untouched hsettings hlog a.demand
  | waiting hloaded hsettings hlog => exact at_ask_waiting hloaded hsettings hlog a.demand
  | told hloaded hsettings hlog hlines =>
    rw [ask_of_some hsettings hlog]
    exact ⟨_, .told _, .told hloaded hsettings hlog hlines⟩
  | untold hloaded hsettings hlog hlines =>
    rw [ask_of_some hsettings hlog]
    exact ⟨_, .untold _, .untold hloaded hsettings hlog hlines⟩

/-- What attempts lead to, one after the other: the events are unwritten in the end if they were at
the beginning or an attempt was refused for its directory. -/
theorem at_attemptAll (h : s.At stage) (attempts : List Attempt) :
    ∃ last, (s.attemptAll attempts).2.At last ∧
      (last.Late ↔ stage.Late ∨ ∃ f, Fault.directory f ∈ (s.attemptAll attempts).1) := by
  induction attempts generalizing s stage with
  | nil => exact ⟨stage, h, by simp [attemptAll]⟩
  | cons a attempts ih =>
    obtain ⟨next, hleads, hnext⟩ := at_attempt h a
    obtain ⟨last, hlast, hlate⟩ := ih hnext
    refine ⟨last, hlast, ?_⟩
    rw [hlate, hleads.late_iff, or_assoc, ← exists_or]
    simp only [attemptAll, List.mem_append, Option.mem_toList, Option.mem_def]

/-- **A refused attempt** leaves the log as it was. It leaves the settings as they were too, unless
they were not there and it was refused for the directory of the log. -/
theorem kept_of_refused (h : s.At stage) (hrefused : (s.attempt a).1 = some f) :
    (s.attempt a).2.log? = s.log? ∧
      ((s.attempt a).2.settings? = s.settings? ↔
        s.settings? ≠ none ∨ ∀ fault, f ≠ .directory fault) := by
  obtain ⟨stage', hleads, hat⟩ := at_attempt h a
  rw [hrefused] at hleads
  have hlog : s.log? = none := h.log?_eq_none_iff.2 (by cases hleads <;> simp)
  have hlog' : (s.attempt a).2.log? = none := hat.log?_eq_none_iff.2 (by cases hleads <;> simp)
  rw [hlog, hlog', h.settings?_eq, hat.settings?_eq]
  refine ⟨rfl, ?_⟩
  cases hleads <;> simp [Stage.settings?]

/-- **Events are in the log** that is open in the end, each that is kept once in each file that it
belongs in and none of them pending, exactly when no attempt was refused for the directory of the
log. If one was, all of them are pending, and there is no line in the log.

**Proof sketch.** By induction on the attempts (`at_attemptAll`): the first one that gets past
loading either writes the events or is refused for the directory, and then the settings are kept
with them (`at_ask_untouched`). Whoever finds settings that are kept does not write their events
(`at_ask_waiting`). -/
theorem attempts_told_iff (file : Config.FileContent) (environment dotenv : Config.Environment)
    (clock : Log.Clock) (attempts : List Attempt) :
    let run := (unused file environment dotenv clock).attemptAll attempts
    ∀ opened, run.2.log? = some opened →
      ∃ loaded : Config, loaded.IsLoaded ∧
        ((∀ f, Fault.directory f ∉ run.1) ∧
            run.2.settings? = some { loaded with pending := [] } ∧
            (∀ file, opened.journal.linesOf file =
              (Log.Journal.empty .files (Log.thresholdNumber opened.level) run.2.clock).due
                (loaded.pending.map Config.Event.entry) file) ∨
          (∃ f, Fault.directory f ∈ run.1) ∧
            run.2.settings? = some loaded ∧ loaded.pending ≠ [] ∧
            ∀ file, opened.journal.linesOf file = []) := by
  intro run opened hopened
  have hunused : (unused file environment dotenv clock).At .untouched := .untouched rfl rfl
  obtain ⟨last, hlast, hlate⟩ := at_attemptAll hunused attempts
  have hdirectory : last.Late ↔ ∃ f, Fault.directory f ∈ run.1 := by
    rw [hlate]
    simp [Stage.Late, run]
  cases hlast with
  | untouched _ hlog => cases hlog.symm.trans hopened
  | waiting _ _ hlog => cases hlog.symm.trans hopened
  | @told loaded _ hloaded hsettings hlog hlines =>
    cases hlog.symm.trans hopened
    exact ⟨loaded, hloaded, .inl ⟨not_exists.1 (mt hdirectory.2 id), hsettings, hlines⟩⟩
  | @untold loaded _ hloaded hsettings hlog hlines =>
    cases hlog.symm.trans hopened
    exact ⟨loaded, hloaded,
      .inr ⟨hdirectory.1 trivial, hsettings, hloaded.pending_ne_nil, hlines⟩⟩

/-- The directory of the log is where the file of settings stands when the settings are asked for,
and the file is gone when the log is asked for: the log is opened, and no event is written to it. -/
theorem occupied_directory_untold :
    let place : Text := Config.fileName
    let s := unused (.bytes [] "") [("LOG_DIR", place)] [] Log.Journal.plain.clock
    let run := s.attemptAll [⟨.bytes [] "", .settings⟩, ⟨.absent, .log⟩]
    ∃ opened loaded, run.2.log? = some opened ∧ run.2.settings? = some loaded ∧
      loaded.pending ≠ [] ∧ ∀ file, opened.journal.linesOf file = [] := by
  intro place s run
  obtain ⟨loaded, hload⟩ :
      ∃ loaded, Config.load s.file (s.environment.insertMissing s.dotenv) = .ok loaded := by
    have hok : (Config.load s.file (s.environment.insertMissing s.dotenv)).isOk = true := by
      decide +kernel
    exact exists_of_isOk hok
  have hkept : Config.Setting.directory.Keeps place := by
    have hitself : Config.StandsForItself place := ⟨by decide +kernel, by decide +kernel⟩
    exact congrArg Value.shown (Config.convert_eq_text_iff.2 ⟨hitself, rfl⟩)
  have hplace : loaded.logDirectory = place :=
    Value.text.inj ((Config.value_eq_text_iff hload (by decide) (by decide +kernel)).2 hkept)
  have hoccupied : directoryOf (.bytes [] "") place = .error .occupied := by
    have h : prepareLog (.bytes [] "") (Path.ofText place) = .error .occupied := by decide +kernel
    rw [directoryOf, h]
    rfl
  have hfree : directoryOf .absent place = .ok (Path.ofText place) := by
    have h : prepareLog .absent (Path.ofText place) = .ok () := by decide +kernel
    rw [directoryOf, h]
    rfl
  rw [← hplace] at hoccupied hfree
  have hfirst : s.attempt ⟨.bytes [] "", .settings⟩ =
      (some (.directory .occupied), s.loading (some loaded)) := by
    have hrefused : s.settings = (.error (.directory .occupied), s.loading (some loaded)) :=
      settings_refused rfl rfl (.directory hload hoccupied)
    show s.ask .settings = _
    rw [ask, hrefused]
  let t : Shared := { s.loading (some loaded) with file := .absent }
  have hopen := openLog_of_ok (s := t) (c := loaded) rfl hfree
  have hlog : t.log = t.openLog loaded := by
    rw [log_of_none rfl, settings_of_some rfl]
  have hsecond : ((s.loading (some loaded)).attempt ⟨.absent, .log⟩).2 = (t.openLog loaded).2 := by
    show (t.ask .log).2 = _
    rw [ask, hlog, hopen]
  have hrun : run.2 = (t.openLog loaded).2 := by
    show ((s.attempt ⟨.bytes [] "", .settings⟩).2.attempt ⟨.absent, .log⟩).2 = _
    rw [hfirst, hsecond]
  have hloaded : loaded.IsLoaded := ⟨_, _, hload⟩
  rw [hrun, hopen]
  exact ⟨_, loaded, rfl, rfl, hloaded.pending_ne_nil, fun _ => rfl⟩

end Shared

end TableClient.Session
