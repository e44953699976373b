import TableClient.Config.Access
import TableClient.Proofs.Computation
import TableClient.Proofs.Keyed
import TableClient.Proofs.Text.Reading

set_option relaxedAutoImplicit false
set_option autoImplicit false

/-!
# What settings do not tell

Secrets come from variables of their own. What else is loaded depends on which of them are there,
but not on what they are: two environments that differ in the values of some secrets, none of them
empty, are refused for the same reason, or load settings that differ in the values of those secrets.
The events tell the names and the number of the secrets only, so they are the same too.

## Main definitions

* `TableClient.Config.Secret` — the secrets, with their names and variables.
* `TableClient.Config.Environment.AlikeBut`, `TableClient.Config.AlikeBut` — environments and
  settings that differ in the values of hidden secrets at most.

## Main results

* `TableClient.Config.load_alike` — environments that differ in hidden secrets load settings that
  do.
* `TableClient.Config.AlikeBut.secret` — what is asked of secrets.
-/

namespace TableClient.Config

/-! ### Secrets -/

/-- The secrets. -/
inductive Secret where
  | host
  | username
  | password
deriving DecidableEq

namespace Secret

/-- The name of a secret. -/
def name : Secret → String
  | host => "servicenow_instance"
  | username => "servicenow_user"
  | password => "servicenow_password"

/-- The variable of a secret. -/
def envVar : Secret → String
  | host => "SERVICENOW_INSTANCE"
  | username => "SERVICENOW_USER"
  | password => "SERVICENOW_PASSWORD"

/-- All secrets, in the order in which they are loaded. -/
def all : List Secret := [host, username, password]

/-- The table of secrets has the name and the variable of each. -/
lemma secretVariables_eq : secretVariables = all.map fun s => (s.name, s.envVar) := rfl

/-- Secrets have variables of their own. -/
lemma envVar_inj {s s' : Secret} (h : (s.envVar : Text) = s'.envVar) : s = s' := by
  have hstring := Text.ofString_injective h
  revert hstring
  cases s <;> cases s' <;> decide

/-- Secrets have names of their own. -/
lemma name_inj {s s' : Secret} (h : (s.name : Text) = s'.name) : s = s' := by
  have hstring := Text.ofString_injective h
  revert hstring
  cases s <;> cases s' <;> decide

/-- The variable of a secret sets no setting. -/
lemma envVar_not_setting (s : Secret) : s.envVar ∉ settingVariables.map Prod.fst := by
  cases s <;> decide

end Secret

/-! ### Environments -/

variable {hidden : Secret → Prop} {env env' dotenv dotenv' : Environment} {file : FileContent}
  {c c' : Config}

/-- Environments that differ in the values of hidden secrets at most, and in those only where
neither is empty. -/
def Environment.AlikeBut (hidden : Secret → Prop) (env env' : Environment) : Prop :=
  ∀ envVar : Text, env.get? envVar = env'.get? envVar ∨
    ∃ s t t', hidden s ∧ envVar = s.envVar ∧ env.get? envVar = some t ∧ env'.get? envVar = some t' ∧
      t.isEmpty = false ∧ t'.isEmpty = false

/-- Environments stay alike when variables are filled in that are alike. -/
lemma Environment.AlikeBut.insertMissing (h : env.AlikeBut hidden env')
    (hdotenv : dotenv.AlikeBut hidden dotenv') :
    Environment.AlikeBut hidden (env.insertMissing dotenv) (env'.insertMissing dotenv') := by
  intro envVar
  rw [Keyed.get?_insertMissing, Keyed.get?_insertMissing]
  rcases h envVar with hsame | ⟨s, t, t', hs, hname, ht, ht', hfull⟩
  · rw [hsame]
    cases env'.get? envVar with
    | some t => exact .inl rfl
    | none => simpa using hdotenv envVar
  · exact .inr ⟨s, t, t', hs, hname, by rw [ht]; rfl, by rw [ht']; rfl, hfull⟩

/-- Environments that are alike have the same variables of settings. -/
lemma Environment.AlikeBut.get?_setting (h : env.AlikeBut hidden env') :
    ∀ row ∈ settingVariables, env.get? row.1 = env'.get? row.1 := by
  intro row hrow
  rcases h row.1 with hsame | ⟨s, _, _, _, hname, _⟩
  · exact hsame
  · have hsetting : s.envVar = row.1 := Text.ofString_injective hname.symm
    exact absurd (hsetting ▸ List.mem_map_of_mem hrow) s.envVar_not_setting

/-! ### Settings -/

/-- Values of a secret that differ at most if it is hidden. -/
def HiddenValue (hidden : Secret → Prop) (name s s' : Text) : Prop :=
  s = s' ∨ ∃ secret, hidden secret ∧ name = secret.name

/-- Settings that differ in the values of hidden secrets at most. -/
structure AlikeBut (hidden : Secret → Prop) (c c' : Config) : Prop where
  tree : c.tree = c'.tree
  secrets : c.secrets.Alike (HiddenValue hidden) c'.secrets
  pending : c.pending = c'.pending

/-- A secret of an environment, with its name; an empty variable counts as missing. -/
def Secret.found (env : Environment) (s : Secret) : Option (Text × Text) :=
  (env.get? s.envVar).bind fun t => if t.isEmpty then none else some (s.name, t)

/-- The secrets of an environment are those that are found in it. -/
lemma secretsOf_eq (env : Environment) :
    secretsOf env = Secret.all.filterMap (Secret.found env) := by
  rw [secretsOf, Secret.secretVariables_eq, List.filterMap_map]
  rfl

/-- Whether a secret is found does not depend on its value, nor does its name. -/
lemma Environment.AlikeBut.found (h : env.AlikeBut hidden env') (s : Secret) :
    Option.Rel (fun e e' => e.1 = e'.1 ∧ HiddenValue hidden e.1 e.2 e'.2) (s.found env)
      (s.found env') := by
  unfold Secret.found
  rcases h s.envVar with hsame | ⟨secret, t, t', hsecret, hname, ht, ht', hfull, hfull'⟩
  · rw [hsame]
    cases env'.get? s.envVar with
    | none => exact .none
    | some t =>
      rw [Option.bind_some]
      split
      · exact .none
      · exact .some ⟨rfl, .inl rfl⟩
  · obtain rfl := Secret.envVar_inj hname
    rw [ht, ht', Option.bind_some, Option.bind_some, hfull, hfull']
    exact .some ⟨rfl, .inr ⟨s, hsecret, rfl⟩⟩

/-- Environments that are alike have the same secrets but for the values of hidden ones. -/
lemma Environment.AlikeBut.secretsOf (h : env.AlikeBut hidden env') :
    (secretsOf env).Alike (HiddenValue hidden) (secretsOf env') := by
  rw [secretsOf_eq, secretsOf_eq]
  refine List.rel_filterMap (R := Eq) ?_ (List.forall₂_eq_eq_eq ▸ rfl)
  rintro s _ rfl
  exact h.found s

/-- The event that tells of secrets does not depend on their values. -/
lemma secretsEvent_congr {secrets secrets' : Named Text}
    (h : secrets.Alike (HiddenValue hidden) secrets') :
    secretsEvent secrets = secretsEvent secrets' := by
  rw [secretsEvent, secretsEvent, h.keys_eq, List.Forall₂.length_eq h]

/-- Settings that variables set are the same for environments that have the same variables. -/
lemma applyVariables_congr {rows : List (String × String)}
    (h : ∀ row ∈ rows, env.get? row.1 = env'.get? row.1) (tree : Entries) :
    applyVariables env rows tree = applyVariables env' rows tree := by
  induction rows generalizing tree with
  | nil => rfl
  | cons row rows ih =>
    obtain ⟨hrow, hrows⟩ := List.forall_mem_cons.1 h
    obtain ⟨envVar, path⟩ := row
    rw [applyVariables, applyVariables, hrow]
    simp only [ih hrows]

/-- **Environments that differ in hidden secrets load settings that differ in them**, or are refused
for the same reason.

**Proof sketch.** The variables of settings are no variables of secrets, so that the same tree is
loaded. The events tell the names and the number of the secrets, which do not depend on values. -/
theorem load_alike (file : FileContent) (h : env.AlikeBut hidden env') :
    Matches (AlikeBut hidden) (load file env) (load file env') := by
  have hsecrets := h.secretsOf
  refine (Matches.refl (R := Eq) (fun _ => rfl) (fileLayer file)).bind ?_
  rintro ⟨tree, event⟩ _ rfl
  dsimp only
  rw [applyVariables_congr h.get?_setting]
  refine (Matches.refl (R := Eq) (fun _ => rfl) _).bind ?_
  rintro ⟨tree, events⟩ _ rfl
  refine .ok ⟨rfl, hsecrets, ?_⟩
  dsimp only
  rw [secretsEvent_congr hsecrets, loadedEvent, loadedEvent, List.Forall₂.length_eq hsecrets]

/-! ### What is asked of settings -/

/-- Settings that are alike ask for the same log. -/
lemma AlikeBut.log_eq (h : c.AlikeBut hidden c') :
    c.logDirectory = c'.logDirectory ∧ c.logLevel = c'.logLevel := by
  constructor
  · rw [logDirectory, logDirectory, directorySetting, directorySetting, get, get, h.tree]
  · rw [logLevel, logLevel, get, get, h.tree]

/-- Settings that are alike write the same lines for their events, and stay alike. -/
lemma AlikeBut.flush (h : c.AlikeBut hidden c') (j : Log.Journal) :
    (c.flush j).1.AlikeBut hidden (c'.flush j).1 ∧ (c.flush j).2 = (c'.flush j).2 := by
  refine ⟨⟨h.tree, h.secrets, rfl⟩, ?_⟩
  rw [Config.flush, Config.flush, h.pending]

/-- Values that are the same, or texts of a hidden secret. -/
def HiddenText (hidden : Secret → Prop) (secret : Secret) (v v' : Value) : Prop :=
  v = v' ∨ hidden secret ∧ ∃ t t' : Text, v = .text t ∧ v' = .text t'

/-- A secret that must be there, by its name. -/
lemma secret_text (c : Config) (name : Text) :
    c.secret (.text name) true = match c.secrets.get? name with
      | some t => .ok (.text t)
      | none => .error (.missingSecret name) := by
  have hthere : c.hasSecret (.text name) = .ok (c.secrets.get? name).isSome := rfl
  rw [Config.secret, hthere]
  cases hfound : c.secrets.get? name with
  | none => rfl
  | some t =>
    show (match (Value.text? (.text name)).bind c.secrets.get? with
      | some s => pure (.text s)
      | none => pure .null : Except Fault Value) = _
    rw [Value.text?, Option.bind_some, hfound]
    rfl

/-- **A secret that is asked for** is missing in both settings that are alike, or is a text that
differs only if the secret is hidden. -/
theorem AlikeBut.secret (h : c.AlikeBut hidden c') (secret : Secret) :
    Matches (HiddenText hidden secret) (c.secret (.text secret.name) true)
      (c'.secret (.text secret.name) true) := by
  rw [secret_text, secret_text]
  rcases h.secrets.get?_eq_or secret.name with ⟨hnone, hnone'⟩ | ⟨t, t', ht, ht', hvalue⟩
  · rw [hnone, hnone']
    exact .error _
  · rw [ht, ht']
    refine .ok ?_
    rcases hvalue with rfl | ⟨other, hother, hname⟩
    · exact .inl rfl
    · rw [Secret.name_inj hname]
      exact .inr ⟨hother, t, t', rfl, rfl⟩

end TableClient.Config
