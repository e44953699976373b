import TableClient.Proofs.Config.Secrecy
import TableClient.Proofs.Session.FirstUse

set_option relaxedAutoImplicit false
set_option autoImplicit false

/-!
# What is shared does not tell secrets

What is shared may differ in the values of hidden secrets: in the environment, in the dotenv file
and in the settings that are kept. Asking for the settings or for the log is then refused for the
same reason, or gives settings that differ in the values of hidden secrets and the same log, with
the same lines; and what is shared afterwards differs in no more than before.

## Main definitions

* `TableClient.Session.Shared.AlikeBut` — what is shared, but for the values of hidden secrets.

## Main results

* `TableClient.Session.Shared.AlikeBut.settings`, `TableClient.Session.Shared.AlikeBut.log` — asking
  for the settings, and for the log.
-/

namespace TableClient.Session.Shared

open Config (Secret)

/-- What is shared, in two versions that differ in the values of hidden secrets at most. -/
structure AlikeBut (hidden : Secret → Prop) (s s' : Shared) : Prop where
  file : s.file = s'.file
  environment : s.environment.AlikeBut hidden s'.environment
  dotenv : s.dotenv.AlikeBut hidden s'.dotenv
  clock : s.clock = s'.clock
  settings? : Option.Rel (Config.AlikeBut hidden) s.settings? s'.settings?
  log? : s.log? = s'.log?

variable {hidden : Secret → Prop} {s s' : Shared} {c c' : Config}

namespace AlikeBut

/-- Settings that were loaded are kept. -/
lemma loading (h : s.AlikeBut hidden s') {loaded? loaded?' : Option Config}
    (hloaded : Option.Rel (Config.AlikeBut hidden) loaded? loaded?') :
    (s.loading loaded?).AlikeBut hidden (s'.loading loaded?') :=
  ⟨h.file, h.environment.insertMissing h.dotenv, h.dotenv, h.clock, hloaded, h.log?⟩

/-- The log is opened in the same way as settings that are alike ask for. -/
lemma openLog (h : s.AlikeBut hidden s') (hc : c.AlikeBut hidden c') :
    MatchesWith Eq (Shared.AlikeBut hidden) (s.openLog c) (s'.openLog c') := by
  obtain ⟨hdirectory, hlevel⟩ := hc.log_eq
  rw [Shared.openLog, Shared.openLog, logIn, logIn, hdirectory, hlevel, h.file, h.log?, h.clock]
  cases hopen : s'.log? with
  | some opened => exact ⟨.ok rfl, h⟩
  | none =>
    cases directoryOf s'.file c'.logDirectory with
    | error f => exact ⟨.error _, h⟩
    | ok path => exact ⟨.ok rfl, rfl, h.environment, h.dotenv, rfl, h.settings?, rfl⟩

/-- The log is asked for with the same result once the settings were loaded. -/
lemma log_loading (h : s.AlikeBut hidden s') (hc : c.AlikeBut hidden c') :
    MatchesWith Eq (Shared.AlikeBut hidden)
      (s.loading (some c)).log (s'.loading (some c')).log := by
  have hloading := h.loading (.some hc)
  cases hopen : s.log? with
  | some opened =>
    have hlog : (s.loading (some c)).log? = some opened := hopen
    rw [log_of_some hlog, log_of_some (hloading.log?.symm.trans hlog)]
    exact ⟨.ok rfl, hloading⟩
  | none =>
    rw [Shared.log_loading hopen, Shared.log_loading (h.log?.symm.trans hopen)]
    exact hloading.openLog hc

/-- **Asking for the settings** is refused for the same reason, or gives settings that are alike;
and what is shared stays alike, the log being the same. -/
theorem settings (h : s.AlikeBut hidden s') :
    MatchesWith (Config.AlikeBut hidden) (Shared.AlikeBut hidden) s.settings s'.settings := by
  have hrel := h.settings?
  generalize hkept : s.settings? = kept at hrel
  generalize hkept' : s'.settings? = kept' at hrel
  cases hrel with
  | some hc =>
    rw [settings_of_some hkept, settings_of_some hkept']
    exact ⟨.ok hc, h⟩
  | none =>
    rw [settings_of_none hkept, settings_of_none hkept', h.file]
    have hload := Config.load_alike s'.file (h.environment.insertMissing h.dotenv)
    obtain ⟨f, hload, hload'⟩ | ⟨c, c', hload, hload', hc⟩ := hload.cases
    · rw [hload, hload']
      exact ⟨.error _, h.loading .none⟩
    · rw [hload, hload']
      dsimp only
      obtain ⟨f, t, t', hlog, hlog', ht⟩ | ⟨opened, _, t, t', hlog, hlog', rfl, ht⟩ :=
        (h.log_loading hc).cases
      · rw [hlog, hlog']
        exact ⟨.error f, ht⟩
      · obtain ⟨hflushed, hlines⟩ := hc.flush opened.journal
        rw [hlog, hlog']
        dsimp only
        rw [hlines]
        exact ⟨.ok hflushed, ht.file, ht.environment, ht.dotenv, ht.clock, .some hflushed, rfl⟩

/-- **Asking for the log** gives the same log, or is refused for the same reason; and what is shared
stays alike. -/
theorem log (h : s.AlikeBut hidden s') :
    MatchesWith Eq (Shared.AlikeBut hidden) s.log s'.log := by
  cases hopen : s.log? with
  | some opened =>
    rw [log_of_some hopen, log_of_some (h.log?.symm.trans hopen)]
    exact ⟨.ok rfl, h⟩
  | none =>
    rw [log_of_none hopen, log_of_none (h.log?.symm.trans hopen)]
    obtain ⟨f, t, t', hs, hs', ht⟩ | ⟨c, c', t, t', hs, hs', hc, ht⟩ := h.settings.cases
    · rw [hs, hs']
      exact ⟨.error f, ht⟩
    · rw [hs, hs']
      exact ht.openLog hc

end AlikeBut

end TableClient.Session.Shared
