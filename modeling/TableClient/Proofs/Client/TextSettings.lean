import TableClient.Proofs.Client.Overrides
import TableClient.Proofs.Config.Conversion

set_option relaxedAutoImplicit false
set_option autoImplicit false

/-!
# Text settings on the way to a connection

A setting that is a text ought to be what its variable was set to, whatever that is: the service,
its namespace and the directory of the log. And a connection that is opened with the settings ought
to have just these texts in its base URL. It is so when the settings can be loaded and every text
that a variable is set to is kept; a text that can be read as a truth value or a number is not. Such
a service or namespace is no text for the check of the arguments either, which refuses it, so that
no connection is opened at all.

## Main definitions

* `TableClient.Config.Setting.intended` — the value that a setting ought to have.
* `TableClient.Client.TextsSurvive` — what ought to become of texts.

## Main results

* `TableClient.Client.connectConfigured_of_texts`, `TableClient.Client.connectConfigured_refused` —
  opening a connection with the settings, when the service is a text and when it is not.
* `TableClient.Client.texts_survive_iff` — when texts become what they ought to.
-/

namespace TableClient.Config

/-- The value that a setting ought to have: the text that its variable is set to, as it is, or else
what the file has for it, or else its default. -/
def Setting.intended (s : Setting) (file : FileContent) (given : Option Text) : Value :=
  match given with
  | some t => .text t
  | none => s.ranked file none

variable {file : FileContent} {env : Environment} {c : Config} {s : Setting}

/-- A setting that is a text has the value that it ought to have, if it keeps what its variable is
set to. -/
lemma value_eq_intended (h : load file env = .ok c) (hs : s ∈ Setting.texts)
    (hkeeps : ∀ t, env.get? s.envVar = some t → s.Keeps t) :
    s.value c = s.shown (s.intended file (env.get? s.envVar)) := by
  cases ht : env.get? s.envVar with
  | none =>
    rw [value_of_load h, ht]
    rfl
  | some t =>
    rw [(value_eq_text_iff h hs ht).2 (hkeeps t ht)]
    cases s <;> rfl

end TableClient.Config

namespace TableClient.Client

open Config (Secret Setting)

/-! ### Opening a connection with all arguments -/

variable {v : Field → Value}

/-- The argument of a field. -/
lemma get?_argumentsOf (v : Field → Value) (field : Field) :
    (argumentsOf v).get? field.name = some (v field) := by
  cases field <;> rfl

/-- No argument is left out. -/
lemma completeArguments_argumentsOf (v : Field → Value) :
    completeArguments (argumentsOf v) = .ok (argumentsOf v) := rfl

/-- **Opening a connection with all arguments**, of which five are texts. -/
theorem connect_argumentsOf {host username password service scope : Text} {timeout : Value}
    (hhost : checkHost (some (v .host)) = .ok host) (husername : v .username = .text username)
    (hpassword : v .password = .text password) (hservice : v .service = .text service)
    (hscope : v .scope = .text scope) (htimeout : checkTimeout (some (v .timeout)) = .ok timeout)
    (j : Log.Journal) :
    ∃ connection, (connect (argumentsOf v) j).1 = .ok connection ∧
      connection.settings = ⟨host, username, password, service, scope, timeout⟩ := by
  have hchecked : Settings.ofMembers (argumentsOf v) =
      .ok ⟨host, username, password, service, scope, timeout⟩ := by
    unfold Settings.ofMembers
    simp only [get?_argumentsOf, hhost, husername, hpassword, hservice, hscope, htimeout,
      checkField, checkText]
  rw [connect, completeArguments_argumentsOf]
  dsimp only
  rw [Connection.ofArguments, hchecked]
  exact ⟨_, rfl, rfl⟩

/-- **A service that does not pass its check** is the issue for which a connection is refused, if
there is no other one. -/
theorem connect_argumentsOf_refused {host username password scope : Text} {timeout : Value}
    {issue : Issue} (hhost : checkHost (some (v .host)) = .ok host)
    (husername : v .username = .text username) (hpassword : v .password = .text password)
    (hservice : checkText (v .service) = .error issue) (hscope : v .scope = .text scope)
    (htimeout : checkTimeout (some (v .timeout)) = .ok timeout) (j : Log.Journal) :
    (connect (argumentsOf v) j).1 = .error (.issues [(.service, issue)]) := by
  have hrefused : checkField (some (v .service)) (some Config.defaultService) = .error issue :=
    hservice
  have hchecked : Settings.ofMembers (argumentsOf v) = .error [(.service, issue)] := by
    unfold Settings.ofMembers
    simp only [get?_argumentsOf, hhost, husername, hpassword, hscope, htimeout, hrefused]
    rfl
  rw [connect, completeArguments_argumentsOf]
  dsimp only
  rw [Connection.ofArguments, hchecked]

/-- The base URL is that of the instance with the namespace and the service behind it. -/
lemma baseUrl_eq (s : Settings) :
    s.baseUrl = s.instanceUrl ++ "/api/" ++ s.scope ++ "/" ++ s.service := by
  have hpoints (a b c : Text) :
      List.intercalate (Text.points "/") [a.points, Text.points "api", b.points, c.points] =
        a.points ++ Text.points "/api/" ++ b.points ++ Text.points "/" ++ c.points := by
    have hword : Text.points "/api/" = Text.points "/" ++ Text.points "api" ++ Text.points "/" :=
      rfl
    simp [List.intercalate, hword]
  exact congrArg Text.mk (hpoints _ _ _)

/-- A text that is not blank passes the check of the instance. -/
lemma checkHost_text {host : Text} (h : host.strip.isEmpty = false) :
    checkHost (some (.text host)) = .ok host := by
  show (if host.strip.isEmpty then throw .blank else pure host : Checked Text) = _
  rw [h]
  rfl

/-- The value of the field of a secret that is set. -/
lemma configured_ofSecret {env : Config.Environment} {secret : Secret} {text : Text}
    (h : secret.value? env = some text) (c : Config) :
    configured env c (.ofSecret secret) = .text text := by
  rw [configured, configured?_ofSecret, h]
  rfl

section

variable {s t : Session.Shared} {c : Config} {host : Text} (hfresh : s.settings? = none)
  (hsettings : s.settings = (.ok c, t))
  (hset : ∀ secret : Secret, secret.value? s.fillEnvironment.environment ≠ none)
  (hhost : Secret.host.value? s.fillEnvironment.environment = some host)
  (hblank : host.strip.isEmpty = false)

include hfresh hsettings hset hhost hblank

/-- A connection that is opened with the settings has secrets that pass their checks as
arguments. -/
lemma exists_arguments :
    ∃ (v : Field → Value) (username password : Text) (j : Log.Journal),
      (connectConfigured [] s).1 = (connect (argumentsOf v) j).1 ∧
      checkHost (some (v .host)) = .ok host ∧ v .username = .text username ∧
      v .password = .text password ∧ v .service = c.service ∧ v .scope = c.scope ∧
      v .timeout = c.timeout := by
  obtain ⟨-, opened, -, -, hlog⟩ := Session.Shared.of_settings_unused hfresh hsettings
  obtain ⟨username, husername⟩ := Option.ne_none_iff_exists'.1 (hset .username)
  obtain ⟨password, hpassword⟩ := Option.ne_none_iff_exists'.1 (hset .password)
  refine ⟨configured s.fillEnvironment.environment c, username, password, opened.journal, ?_, ?_,
    configured_ofSecret husername c, configured_ofSecret hpassword c, rfl, rfl, rfl⟩
  · rw [connectConfigured_nil hfresh hsettings hlog hset, connectShared]
  · have htext : configured s.fillEnvironment.environment c .host = .text host :=
      configured_ofSecret hhost c
    rw [htext, checkHost_text hblank]

/-- **Opening a connection with the settings**, of which the namespace and the service are texts. -/
theorem connectConfigured_of_texts {service scope : Text} {timeout : Value}
    (htimeout : checkTimeout (some c.timeout) = .ok timeout)
    (hservice : c.service = .text service) (hscope : c.scope = .text scope) :
    ∃ connection, (connectConfigured [] s).1 = .ok connection ∧
      connection.settings.baseUrl = Url.ofInstance host ++ "/api/" ++ scope ++ "/" ++ service := by
  obtain ⟨v, username, password, j, hopening, hv, husername, hpassword, hvservice, hvscope,
    hvtimeout⟩ := exists_arguments hfresh hsettings hset hhost hblank
  obtain ⟨connection, hopened, hchecked⟩ := connect_argumentsOf hv husername hpassword
    (hvservice.trans hservice) (hvscope.trans hscope) (hvtimeout ▸ htimeout) j
  refine ⟨connection, hopening.trans hopened, ?_⟩
  rw [baseUrl_eq, hchecked]
  rfl

/-- **A service that is no text** is what opening a connection with the settings is refused for. -/
theorem connectConfigured_refused {scope : Text} {timeout : Value} {issue : Issue}
    (htimeout : checkTimeout (some c.timeout) = .ok timeout)
    (hservice : checkText c.service = .error issue) (hscope : c.scope = .text scope) :
    (connectConfigured [] s).1 = .error (.issues [(.service, issue)]) := by
  obtain ⟨v, username, password, j, hopening, hv, husername, hpassword, hvservice, hvscope,
    hvtimeout⟩ := exists_arguments hfresh hsettings hset hhost hblank
  rw [hopening]
  exact connect_argumentsOf_refused hv husername hpassword (hvservice ▸ hservice)
    (hvscope.trans hscope) (hvtimeout ▸ htimeout) j

end

/-! ### Texts that survive -/

/-- What ought to become of texts: they are what settings are, and what the base URL ends with. -/
structure TextsSurvive (s : Session.Shared) : Prop where
  /-- The settings can be loaded, and those that are texts are what their variables are set to. -/
  settings : ∃ c, Config.load s.file s.fillEnvironment.environment = .ok c ∧
    ∀ setting ∈ Setting.texts, ∀ t,
      s.fillEnvironment.environment.get? setting.envVar = some t → setting.value c = .text t
  /-- When the secrets and the timeout are valid, a connection is opened with the settings, and its
  base URL ends with the namespace and the service that they ought to have. -/
  connection : ∀ (c : Config) (t : Session.Shared) (host service scope : Text) (timeout : Value),
    s.settings = (.ok c, t) →
    (∀ secret : Secret, secret.value? s.fillEnvironment.environment ≠ none) →
    Secret.host.value? s.fillEnvironment.environment = some host → host.strip.isEmpty = false →
    checkTimeout (some c.timeout) = .ok timeout →
    Setting.service.intended s.file
      (s.fillEnvironment.environment.get? Setting.service.envVar) = .text service →
    Setting.scope.intended s.file
      (s.fillEnvironment.environment.get? Setting.scope.envVar) = .text scope →
    ∃ connection, (connectConfigured [] s).1 = .ok connection ∧
      connection.settings.baseUrl = Url.ofInstance host ++ "/api/" ++ scope ++ "/" ++ service

/-- **When texts become what they ought to**: when the settings can be loaded and each text that a
variable is set to is kept. The text of the service or of its namespace is kept when it names no
truth value and denotes no number; that of the directory of the log, when the value that it is read
as is written in the same way.

**Proof sketch.** A setting has the value that the text of its variable is read as
(`Config.value_eq_text_iff`). If the service and the namespace are kept, they are the texts that
they ought to be (`Config.value_eq_intended`), so that all arguments pass their checks
(`connectConfigured_of_texts`). -/
theorem texts_survive_iff (file : Config.FileContent) (environment dotenv : Config.Environment)
    (clock : Log.Clock) :
    TextsSurvive (.unused file environment dotenv clock) ↔
      (file.Accepted ∧ ∀ setting : Setting,
        Config.given? environment dotenv setting.envVar ≠ none → file.SparesGroup setting) ∧
      ∀ setting ∈ Setting.texts, ∀ t,
        Config.given? environment dotenv setting.envVar = some t → setting.Keeps t := by
  let s : Session.Shared := .unused file environment dotenv clock
  have hgiven (setting : Setting) : s.fillEnvironment.environment.get? setting.envVar =
      Config.given? environment dotenv setting.envVar :=
    Config.get?_filled environment dotenv setting.envVar
  simp only [← hgiven]
  rw [← Config.exists_load_iff]
  constructor
  · rintro ⟨⟨c, hload, hvalues⟩, -⟩
    exact ⟨⟨c, hload⟩, fun setting hsetting t ht =>
      (Config.value_eq_text_iff hload hsetting ht).1 (hvalues setting hsetting t ht)⟩
  · rintro ⟨⟨c, hload⟩, hkeeps⟩
    refine ⟨⟨c, hload, fun setting hsetting t ht =>
      (Config.value_eq_text_iff hload hsetting ht).2 (hkeeps setting hsetting t ht)⟩, ?_⟩
    intro c' t host service scope timeout hsettings hset hhost hblank htimeout hservice hscope
    obtain ⟨loaded, -, hload', rfl, -⟩ :=
      Session.Shared.of_settings_unused rfl hsettings
    have hvalue (setting : Setting) (h : setting ∈ Setting.texts) :=
      Config.value_eq_intended hload' h (hkeeps setting h)
    have hservice' : loaded.service = .text service :=
      (hvalue .service (by decide)).trans (congrArg Setting.service.shown hservice)
    have hscope' : loaded.scope = .text scope :=
      (hvalue .scope (by decide)).trans (congrArg Setting.scope.shown hscope)
    exact connectConfigured_of_texts rfl hsettings hset hhost hblank htimeout hservice' hscope'

/-- The timeout passes its check when it is not set otherwise. -/
lemma exists_checkTimeout_default :
    ∃ timeout, checkTimeout (some (.int Config.defaultTimeout)) = .ok timeout := by
  have hpasses : (checkTimeout (some (.int Config.defaultTimeout))).isOk = true := by
    decide +kernel
  exact exists_of_isOk hpasses

/-- The service is set to a numeral, and the secrets are set: the service is a number, and no
connection is opened, as it is not a text. -/
theorem numeral_refused :
    let s : Session.Shared := .unused .absent
      [("SERVICENOW_INSTANCE", "dev1"), ("SERVICENOW_USER", "u"), ("SERVICENOW_PASSWORD", "p"),
        ("SERVICENOW_API_NAME", "123")] [] Log.Journal.plain.clock
    (∃ c t, s.settings = (.ok c, t) ∧ c.service = .int 123) ∧
      (connectConfigured [] s).1 = .error (.issues [(.service, .notText)]) ∧ ¬ TextsSurvive s := by
  intro s
  have hconvert : Config.convert "123" = .int 123 := by
    have hnoTruth : Config.truthValue? "123" = none := by decide +kernel
    have hnumber : Config.dotlessInt? "123" = some 123 := by decide +kernel
    rw [Config.convert, hnoTruth, hnumber]
  have hnumeral : s.fillEnvironment.environment.get? Setting.service.envVar =
      some ("123" : Text) := by decide +kernel
  have hscope : s.fillEnvironment.environment.get? Setting.scope.envVar = none := by
    decide +kernel
  have hseconds : s.fillEnvironment.environment.get? Setting.timeout.envVar = none := by
    decide +kernel
  have hdirectory : s.fillEnvironment.environment.get? Setting.directory.envVar = none := by
    decide +kernel
  obtain ⟨c, t, hsettings⟩ : ∃ c t, s.settings = (.ok c, t) :=
    Session.Shared.exists_settings_absent _ hdirectory
  obtain ⟨loaded, -, hload, rfl, -⟩ := Session.Shared.of_settings_unused rfl hsettings
  have hvalue (setting : Setting) {given : Option Text}
      (h : s.fillEnvironment.environment.get? setting.envVar = given) :
      setting.value loaded = setting.shown (setting.ranked .absent given) := by
    rw [← h]
    exact Config.value_of_load hload setting
  have hservice : loaded.service = .int 123 := (hvalue .service hnumeral).trans hconvert
  refine ⟨⟨_, t, hsettings, hservice⟩, ?_, fun hsurvive => ?_⟩
  · have hset : ∀ secret : Secret, secret.value? s.fillEnvironment.environment ≠ none := by
      intro secret
      cases secret <;> decide +kernel
    have hhost : Secret.host.value? s.fillEnvironment.environment = some ("dev1" : Text) := by
      decide +kernel
    have hblank : (Text.strip "dev1").isEmpty = false := by decide +kernel
    obtain ⟨timeout, htimeout⟩ := exists_checkTimeout_default
    have hdefault : loaded.timeout = .int Config.defaultTimeout := hvalue .timeout hseconds
    rw [← hdefault] at htimeout
    exact connectConfigured_refused rfl hsettings hset hhost hblank htimeout
      (congrArg checkText hservice) (hvalue .scope hscope)
  · obtain ⟨c, hc, hvalues⟩ := hsurvive.settings
    cases hc.symm.trans hload
    cases (hvalues .service (by decide) "123" hnumeral).symm.trans hservice

end TableClient.Client
