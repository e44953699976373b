import TableClient.Client.Connection
import TableClient.Proofs.Session.Secrecy

set_option relaxedAutoImplicit false
set_option autoImplicit false

/-!
# Arguments that go over the settings

A connection that is opened with the shared settings ought to be the one that is opened with, for
each field, the argument that is given for it, and the configured value where none is given; and it
ought to be refused for a missing secret exactly when one is neither given nor set in the
environment. It is so when all secrets are set, and when one that is not set is not given either.
But the secrets are asked for before the arguments are laid over them: a secret that is not set is
reported even when an argument is given in its place.

## Main definitions

* `TableClient.Config.Secret.value?` — the value of a secret in an environment.
* `TableClient.Client.configured?`, `TableClient.Client.chosen?` — the value that a field has in the
  settings, and the one that it ought to have.
* `TableClient.Client.OverridesWin` — what opening a connection ought to do.

## Main results

* `TableClient.Client.connectConfigured_of_set`, `TableClient.Client.connectConfigured_of_unset` —
  what it does when all secrets are set, and when one is not.
* `TableClient.Client.overrides_win_iff` — when it does what it ought to do.
-/

namespace TableClient.Config

/-! ### Secrets that are set -/

/-- The value of a secret in an environment, where an empty variable counts as missing. -/
def Secret.value? (env : Environment) (s : Secret) : Option Text :=
  (env.get? s.envVar).filter (!·.isEmpty)

/-- What is found of a secret is its value, with its name. -/
lemma Secret.found_eq (env : Environment) (s : Secret) :
    s.found env = (s.value? env).map fun t => ((s.name : Text), t) := by
  rw [found, value?]
  cases env.get? s.envVar with
  | none => rfl
  | some t => cases ht : t.isEmpty <;> simp [Option.filter, ht]

/-- Secrets are told apart by their names. -/
lemma Secret.name_beq (s s' : Secret) : ((s.name : Text) == s'.name) = decide (s = s') := by
  by_cases h : s = s'
  · subst h
    simp
  · have hname : (s.name : Text) ≠ s'.name := fun heq => h (name_inj heq)
    simp [h, hname]

/-- The secrets of an environment have the values that are set. -/
lemma get?_secretsOf (env : Environment) (s : Secret) :
    (secretsOf env).get? s.name = s.value? env := by
  rw [secretsOf_eq, Secret.all]
  simp only [List.filterMap_cons, List.filterMap_nil, Secret.found_eq]
  cases hhost : Secret.host.value? env <;> cases husername : Secret.username.value? env <;>
    cases hpassword : Secret.password.value? env <;> cases s <;>
    simp [Keyed.get?, Secret.name_beq, hhost, husername, hpassword]

/-- The secrets of loaded settings are those of the environment. -/
lemma secrets_of_load {file : FileContent} {env : Environment} {c : Config}
    (h : load file env = .ok c) : c.secrets = secretsOf env := by
  obtain ⟨⟨tree, event⟩, -, hrest⟩ := bind_eq_ok_iff.1 h
  obtain ⟨⟨tree', events⟩, -, hc⟩ := bind_eq_ok_iff.1 hrest
  cases hc
  rfl

/-- A secret that is set is there. -/
lemma secret_of_some {env : Environment} {c : Config} (h : c.secrets = secretsOf env) {s : Secret}
    {t : Text} (ht : s.value? env = some t) : c.secret (.text s.name) true = .ok (.text t) := by
  rw [secret_text, h, get?_secretsOf, ht]

/-- A secret that is not set is missing. -/
lemma secret_of_none {env : Environment} {c : Config} (h : c.secrets = secretsOf env) {s : Secret}
    (hs : s.value? env = none) :
    c.secret (.text s.name) true = .error (.missingSecret s.name) := by
  rw [secret_text, h, get?_secretsOf, hs]

end TableClient.Config

namespace TableClient.Session.Shared

variable {s t : Shared} {c : Config}

/-- Settings that are asked for first have the secrets of the environment. -/
lemma secrets_of_settings (hfresh : s.settings? = none) (h : s.settings = (.ok c, t)) :
    c.secrets = Config.secretsOf s.fillEnvironment.environment := by
  obtain ⟨loaded, -, hload, rfl, -⟩ := of_settings_unused hfresh h
  have hsecrets : loaded.secrets = _ := Config.secrets_of_load hload
  exact hsecrets

end TableClient.Session.Shared

namespace TableClient.Client

open Config (Secret Environment)

/-! ### What the fields ought to be -/

/-- All fields, in the order of the arguments. -/
def Field.all : List Field := [host, username, password, service, scope, timeout]

/-- The field whose configured value is a secret. -/
def Field.ofSecret : Secret → Field
  | .host => host
  | .username => username
  | .password => password

/-- The value of a field in an environment and settings, if there is one: three are secrets, which
may be missing, and three are settings. -/
def configured? (env : Environment) (c : Config) : Field → Option Value
  | .host => (Secret.host.value? env).map .text
  | .username => (Secret.username.value? env).map .text
  | .password => (Secret.password.value? env).map .text
  | .service => some c.service
  | .scope => some c.scope
  | .timeout => some c.timeout

/-- The value of a field when all secrets are set. -/
def configured (env : Environment) (c : Config) (field : Field) : Value :=
  (configured? env c field).getD .null

/-- The value that a field ought to have: the argument that is given for it, or else the configured
value. -/
def chosen? (overrides : Members) (env : Environment) (c : Config) (field : Field) :
    Option Value :=
  (overrides.get? field.name).or (configured? env c field)

/-- The arguments that give each field its value. -/
def argumentsOf (v : Field → Value) : Members := Field.all.map fun field => (field.name, v field)

/-- The result of opening a connection with the log of what is shared. -/
def connectShared (given : Members) (opened : Session.OpenLog) (s : Session.Shared) :
    Except OpenFault Connection × Session.Shared :=
  ((connect given opened.journal).1,
    { s with log? := some { opened with journal := (connect given opened.journal).2 } })

/-- Opening a connection with what is shared and arguments that go over the settings does what it
ought to do: `c` are the settings, and `t` is what is shared once they were asked for. -/
structure OverridesWin (overrides : Members) (s t : Session.Shared) (c : Config)
    (opened : Session.OpenLog) : Prop where
  /-- The settings are available. -/
  settings : s.settings = (.ok c, t)
  /-- So is the log. -/
  log : t.log? = some opened
  /-- If every field has a value, the connection is opened with these values. -/
  asChosen : ∀ v : Field → Value,
    (∀ field, chosen? overrides s.fillEnvironment.environment c field = some (v field)) →
    connectConfigured overrides s = connectShared (argumentsOf v) opened t
  /-- It is refused for a missing secret when one is neither set nor given, and not otherwise. -/
  refused_iff :
    (∃ name, (connectConfigured overrides s).1 = .error (.secret (.missingSecret name))) ↔
      ∃ secret : Secret, secret.value? s.fillEnvironment.environment = none ∧
        overrides.has (Field.ofSecret secret).name = false

/-! ### What opening a connection does -/

variable {overrides : Members} {s t : Session.Shared} {c : Config} {env : Environment}
  {opened : Session.OpenLog}

/-- Every field is among all of them. -/
lemma Field.mem_all (field : Field) : field ∈ all := by
  cases field <;> decide

/-- The configured value of the field of a secret is the secret. -/
lemma configured?_ofSecret (env : Environment) (c : Config) (secret : Secret) :
    configured? env c (.ofSecret secret) = (secret.value? env).map .text := by
  cases secret <;> rfl

/-- When all secrets are set, all fields have a configured value. -/
lemma configured?_of_set (hset : ∀ secret : Secret, secret.value? env ≠ none) (field : Field) :
    configured? env c field = some (configured env c field) := by
  have hsecret (secret : Secret) : ∃ v, configured? env c (.ofSecret secret) = some v := by
    obtain ⟨text, htext⟩ := Option.ne_none_iff_exists'.1 (hset secret)
    exact ⟨.text text, by rw [configured?_ofSecret, htext]; rfl⟩
  have hsome : ∃ v, configured? env c field = some v := by
    cases field with
    | host => exact hsecret .host
    | username => exact hsecret .username
    | password => exact hsecret .password
    | service => exact ⟨_, rfl⟩
    | scope => exact ⟨_, rfl⟩
    | timeout => exact ⟨_, rfl⟩
  obtain ⟨v, hv⟩ := hsome
  rw [configured, hv]
  rfl

/-- When all secrets are set, a field has the value that is given, or else the configured one. -/
lemma chosen?_of_set (hset : ∀ secret : Secret, secret.value? env ≠ none) (field : Field) :
    chosen? overrides env c field =
      some ((overrides.get? field.name).getD (configured env c field)) := by
  rw [chosen?, configured?_of_set hset]
  cases overrides.get? field.name <;> rfl

/-- A field whose secret is neither set nor given has no value. -/
lemma chosen?_of_missing {secret : Secret} (hunset : secret.value? env = none)
    (hgiven : overrides.has (Field.ofSecret secret).name = false) :
    chosen? overrides env c (.ofSecret secret) = none := by
  rw [Keyed.has, Option.isSome_eq_false_iff, Option.isNone_iff_eq_none] at hgiven
  rw [chosen?, hgiven, configured?_ofSecret, hunset]
  rfl

/-- The arguments that settings amount to, with the names of the secrets. -/
lemma configuredArguments_eq (c : Config) :
    configuredArguments c = do
      let host ← c.secret (.text Secret.host.name) true
      let username ← c.secret (.text Secret.username.name) true
      let password ← c.secret (.text Secret.password.name) true
      return [(Field.host.name, host), (Field.username.name, username),
        (Field.password.name, password), (Field.service.name, c.service),
        (Field.scope.name, c.scope), (Field.timeout.name, c.timeout)] := rfl

/-- **The settings as arguments when all secrets are set** are the configured values. -/
theorem configuredArguments_of_set (hsecrets : c.secrets = Config.secretsOf env)
    (hset : ∀ secret : Secret, secret.value? env ≠ none) :
    configuredArguments c = .ok (argumentsOf (configured env c)) := by
  obtain ⟨host, hhost⟩ := Option.ne_none_iff_exists'.1 (hset .host)
  obtain ⟨username, husername⟩ := Option.ne_none_iff_exists'.1 (hset .username)
  obtain ⟨password, hpassword⟩ := Option.ne_none_iff_exists'.1 (hset .password)
  rw [configuredArguments_eq, Config.secret_of_some hsecrets hhost,
    Config.secret_of_some hsecrets husername, Config.secret_of_some hsecrets hpassword]
  simp only [argumentsOf, Field.all, List.map_cons, List.map_nil, configured, configured?, hhost,
    husername, hpassword]
  rfl

/-- **The settings as arguments when a secret is not set** are refused: a secret is missing that is
not set. -/
theorem configuredArguments_of_unset (hsecrets : c.secrets = Config.secretsOf env)
    (hunset : ∃ secret : Secret, secret.value? env = none) :
    ∃ secret : Secret, secret.value? env = none ∧
      configuredArguments c = .error (.missingSecret secret.name) := by
  rw [configuredArguments_eq]
  cases hhost : Secret.host.value? env with
  | none => exact ⟨.host, hhost, by rw [Config.secret_of_none hsecrets hhost]; rfl⟩
  | some host =>
    rw [Config.secret_of_some hsecrets hhost]
    cases husername : Secret.username.value? env with
    | none => exact ⟨.username, husername, by rw [Config.secret_of_none hsecrets husername]; rfl⟩
    | some username =>
      rw [Config.secret_of_some hsecrets husername]
      obtain ⟨secret, hsecret⟩ := hunset
      cases secret with
      | host => cases hhost.symm.trans hsecret
      | username => cases husername.symm.trans hsecret
      | password => exact ⟨.password, hsecret, by rw [Config.secret_of_none hsecrets hsecret]; rfl⟩

/-- The arguments of fields are not among those that are refused at once. -/
lemma not_reserved (hfields : ∀ name ∈ overrides.keys, ∃ field : Field, name = field.name) :
    reservedOverrides.any (fun name => overrides.has name) = false := by
  rw [List.any_eq_false]
  intro name hname hhas
  obtain ⟨field, hfield⟩ := hfields name (Keyed.has_iff_mem_keys.1 hhas)
  obtain rfl := Text.ofString_injective hfield
  revert hname
  cases field <;> decide

/-- Arguments that go over others give each field that they name another value. -/
lemma argumentsOf_insertAll (v : Field → Value)
    (hfields : ∀ name ∈ overrides.keys, ∃ field : Field, name = field.name)
    (hnodup : overrides.keys.Nodup) :
    (argumentsOf v).insertAll overrides =
      argumentsOf fun field => (overrides.get? field.name).getD (v field) := by
  have hkeys : (argumentsOf v).keys = Field.all.map fun field => (field.name : Text) := by
    rw [argumentsOf, Keyed.keys, List.map_map]
    rfl
  have hnames : (argumentsOf v).keys.Nodup := by
    rw [hkeys]
    decide
  have hthere : ∀ name ∈ overrides.keys, name ∈ (argumentsOf v).keys := by
    intro name hname
    obtain ⟨field, rfl⟩ := hfields name hname
    rw [hkeys]
    exact List.mem_map_of_mem field.mem_all
  rw [Keyed.insertAll_eq_map hnames hnodup hthere, argumentsOf, List.map_map]
  rfl

/-- Opening a connection does not miss secrets. -/
lemma connect_ne_secret (given : Members) (j : Log.Journal) (f : Config.Fault) :
    (connect given j).1 ≠ .error (.secret f) := by
  unfold connect
  split
  · rename_i g hincomplete
    unfold completeArguments at hincomplete
    dsimp only at hincomplete
    split at hincomplete
    · cases hincomplete
    · cases hincomplete
      exact fun h => nomatch h
  · rename_i given _
    unfold Connection.ofArguments
    cases Settings.ofMembers given with
    | error issues => exact fun h => nomatch h
    | ok settings => exact fun h => nomatch h

section

variable (hfields : ∀ name ∈ overrides.keys, ∃ field : Field, name = field.name)
  (hnodup : overrides.keys.Nodup) (hfresh : s.settings? = none)
  (hsettings : s.settings = (.ok c, t))

include hfields hfresh hsettings

/-- **When a secret is not set**, opening a connection is refused, whatever arguments are given. -/
theorem connectConfigured_of_unset
    (hunset : ∃ secret : Secret, secret.value? s.fillEnvironment.environment = none) :
    ∃ secret : Secret, secret.value? s.fillEnvironment.environment = none ∧
      connectConfigured overrides s = (.error (.secret (.missingSecret secret.name)), t) := by
  have hsecrets := Session.Shared.secrets_of_settings hfresh hsettings
  obtain ⟨secret, hsecret, harguments⟩ := configuredArguments_of_unset hsecrets hunset
  refine ⟨secret, hsecret, ?_⟩
  rw [connectConfigured, not_reserved hfields, hsettings]
  dsimp only
  rw [harguments]
  rfl

include hnodup

/-- **When all secrets are set**, the connection is opened with the arguments that are given, and
with the configured values for the other fields. -/
theorem connectConfigured_of_set (hlog : t.log? = some opened)
    (hset : ∀ secret : Secret, secret.value? s.fillEnvironment.environment ≠ none) :
    connectConfigured overrides s =
      connectShared (argumentsOf fun field => (overrides.get? field.name).getD
        (configured s.fillEnvironment.environment c field)) opened t := by
  have hsecrets := Session.Shared.secrets_of_settings hfresh hsettings
  rw [connectConfigured, not_reserved hfields, hsettings]
  dsimp only
  rw [configuredArguments_of_set hsecrets hset, Session.Shared.log_of_some hlog,
    ← argumentsOf_insertAll _ hfields hnodup]
  rfl

end

/-- When all secrets are set and no arguments are given, the connection is opened with the
configured values. -/
lemma connectConfigured_nil (hfresh : s.settings? = none) (hsettings : s.settings = (.ok c, t))
    (hlog : t.log? = some opened)
    (hset : ∀ secret : Secret, secret.value? s.fillEnvironment.environment ≠ none) :
    connectConfigured [] s =
      connectShared (argumentsOf (configured s.fillEnvironment.environment c)) opened t := by
  have hfields : ∀ name ∈ Keyed.keys ([] : Members), ∃ field : Field, name = field.name := nofun
  rw [connectConfigured_of_set hfields List.nodup_nil hfresh hsettings hlog hset]
  simp only [Keyed.get?, Option.getD_none]

/-- **When arguments win over the settings**, and a secret is missing exactly when it is neither set
nor given: when the settings are available, and all secrets are set or there is one that is neither
set nor given. So it fails, besides for settings that are not available, exactly when some secret is
not set and an argument is given for every secret that is not.

**Proof sketch.** When all secrets are set, the configured values are the arguments that others are
laid over (`connectConfigured_of_set`), and nothing is refused for a missing secret. When one is not
set, the connection is refused for that, whatever is given (`connectConfigured_of_unset`), which is
as it ought to be when one is not given either. -/
theorem overrides_win_iff
    (hfields : ∀ name ∈ overrides.keys, ∃ field : Field, name = field.name)
    (hnodup : overrides.keys.Nodup) (hfresh : s.settings? = none) :
    (∃ t c opened, OverridesWin overrides s t c opened) ↔
      (∃ c, s.settings.1 = .ok c) ∧
        ((∀ secret : Secret, secret.value? s.fillEnvironment.environment ≠ none) ∨
          ∃ secret : Secret, secret.value? s.fillEnvironment.environment = none ∧
            overrides.has (Field.ofSecret secret).name = false) := by
  constructor
  · rintro ⟨t, c, opened, h⟩
    refine ⟨⟨c, by rw [h.settings]⟩, or_iff_not_imp_left.2 fun hunset => ?_⟩
    rw [not_forall] at hunset
    obtain ⟨secret, -, hrefused⟩ := connectConfigured_of_unset hfields hfresh h.settings
      (hunset.imp fun _ => not_not.1)
    exact h.refused_iff.1 ⟨secret.name, by rw [hrefused]⟩
  · rintro ⟨⟨c, hc⟩, hsecrets⟩
    obtain ⟨t, hsettings⟩ : ∃ t, s.settings = (.ok c, t) := ⟨s.settings.2, by rw [← hc]⟩
    obtain ⟨-, opened, -, -, hlog⟩ := Session.Shared.of_settings_unused hfresh hsettings
    refine ⟨t, c, opened, hsettings, hlog, ?_, ?_⟩
    · intro v hv
      rcases hsecrets with hset | ⟨secret, hunset, hgiven⟩
      · rw [connectConfigured_of_set hfields hnodup hfresh hsettings hlog hset]
        congr 2
        funext field
        exact Option.some.inj ((chosen?_of_set hset field).symm.trans (hv field))
      · cases (chosen?_of_missing hunset hgiven).symm.trans (hv _)
    · rcases hsecrets with hset | hmissing
      · refine iff_of_false ?_ fun ⟨secret, hunset, _⟩ => hset secret hunset
        rintro ⟨name, hrefused⟩
        rw [connectConfigured_of_set hfields hnodup hfresh hsettings hlog hset] at hrefused
        exact connect_ne_secret _ opened.journal _ hrefused
      · refine iff_of_true ?_ hmissing
        obtain ⟨secret, -, hrefused⟩ := connectConfigured_of_unset hfields hfresh hsettings
          (hmissing.imp fun _ h => h.1)
        exact ⟨secret.name, by rw [hrefused]⟩

/-- The password and the namespace are given, and the secrets are set. -/
theorem overrides_win_iff_given :
    let overrides : Members := [("password", .text "other"), ("namespace", .text "x_app")]
    let s : Session.Shared := .unused .absent
      [("SERVICENOW_INSTANCE", "dev"), ("SERVICENOW_USER", "admin"),
        ("SERVICENOW_PASSWORD", "secret")] [] Log.Journal.plain.clock
    (∀ name ∈ overrides.keys, ∃ field : Field, name = field.name) ∧ overrides.keys.Nodup ∧
      s.settings? = none ∧ ∃ t c opened, OverridesWin overrides s t c opened := by
  intro overrides s
  have hfields : ∀ name ∈ overrides.keys, ∃ field : Field, name = field.name :=
    List.forall_mem_cons.2 ⟨⟨.password, rfl⟩, List.forall_mem_cons.2 ⟨⟨.scope, rfl⟩, nofun⟩⟩
  have hnodup : overrides.keys.Nodup := by decide
  obtain ⟨c, t, hsettings⟩ : ∃ c t, s.settings = (.ok c, t) :=
    Session.Shared.exists_settings_absent _ rfl
  refine ⟨hfields, hnodup, rfl, (overrides_win_iff hfields hnodup rfl).2 ⟨⟨c, ?_⟩, .inl ?_⟩⟩
  · rw [hsettings]
  · intro secret h
    cases secret <;> cases h

/-- All secrets are given and none is set: opening a connection is refused for a missing secret, and
yet the same arguments alone open one. -/
theorem given_secrets_missed :
    let overrides : Members :=
      [("instance", .text "dev1"), ("username", .text "u"), ("password", .text "p")]
    let s : Session.Shared := .unused .absent [] [] Log.Journal.plain.clock
    (∃ name, (connectConfigured overrides s).1 = .error (.secret (.missingSecret name))) ∧
      (connect overrides .plain).1.isOk = true ∧
      ∀ t c opened, ¬ OverridesWin overrides s t c opened := by
  intro overrides s
  have hfields : ∀ name ∈ overrides.keys, ∃ field : Field, name = field.name :=
    List.forall_mem_cons.2 ⟨⟨.host, rfl⟩, List.forall_mem_cons.2 ⟨⟨.username, rfl⟩,
      List.forall_mem_cons.2 ⟨⟨.password, rfl⟩, nofun⟩⟩⟩
  obtain ⟨c, t, hsettings⟩ : ∃ c t, s.settings = (.ok c, t) :=
    Session.Shared.exists_settings_absent _ rfl
  obtain ⟨secret, -, hrefused⟩ := connectConfigured_of_unset hfields rfl hsettings ⟨.host, rfl⟩
  have hmissing : ∃ name,
      (connectConfigured overrides s).1 = .error (.secret (.missingSecret name)) :=
    ⟨secret.name, by rw [hrefused]⟩
  have hopens : (connect overrides .plain).1.isOk = true := by decide +kernel
  refine ⟨hmissing, hopens, fun t c opened h => ?_⟩
  obtain ⟨missed, -, hgiven⟩ := h.refused_iff.1 hmissing
  revert hgiven
  cases missed <;> decide

end TableClient.Client
