import TableClient.Client.Records
import TableClient.Proofs.Session.Secrecy

set_option relaxedAutoImplicit false
set_option autoImplicit false

/-!
# What the password shows in

A password is handed to the channel with the requests, and shows nowhere else: connections that are
opened with different passwords, or with settings that differ in the password, are refused for the
same reason or differ in the password only, and then do the same. The requests, the results and the
lines of the log are the same.

## Main definitions

* `TableClient.Client.Connection.SameButPassword` — connections that differ in the password at most.
* `TableClient.Client.OtherPassword` — arguments that differ in the text of the password at most.

## Main results

* `TableClient.Client.connect_secret`, `TableClient.Client.connectConfigured_secret` — opening a
  connection.
* `TableClient.Client.Connection.SameButPassword.call`,
  `TableClient.Client.Connection.SameButPassword.performAll` — what connections do.
* `TableClient.Client.secrets_unseen` — all of it, together with the loading of settings.
-/

namespace TableClient.Client

open Config (Secret)

/-! ### Connections -/

/-- Connections that differ in the password at most. -/
structure Connection.SameButPassword (c c' : Connection) : Prop where
  settings : ∃ password, c'.settings = { c.settings with password := password }
  host : c'.host = c.host
  username : c'.username = c.username

namespace Connection.SameButPassword

variable {c c' : Connection}

/-- Calls do the same. -/
theorem call (h : c.SameButPassword c') (k : Call) : c'.call k = c.call k := by
  obtain ⟨⟨password, hsettings⟩, hhost, -⟩ := h
  have hurl : c'.url k = c.url k := by
    rw [url, url, hsettings]
    rfl
  have hrequest (url : Text) : c'.request k url = c.request k url := by
    rw [request, request, hsettings]
  have hfail (r : Request) (f : Failure) : c'.fail r f = c.fail r f := by
    rw [fail, fail, hhost]
  have hreceive (r : Request) (response : Response) :
      c'.receive k r response = c.receive k r response := by
    rw [receive, receive, hhost]
  unfold Connection.call
  simp only [hurl, hrequest, hfail, hreceive]

/-- Operations do the same. -/
theorem perform (h : c.SameButPassword c') (o : Operation) : c'.perform o = c.perform o := by
  have htable (k : Call) : c'.callTable k = c.callTable k := by
    rw [callTable, callTable, h.call]
  cases o <;> simp only [Connection.perform, htable]

/-- **Runs do the same**: they result in the same, and leave the same channel. -/
theorem performAll (h : c.SameButPassword c') (ops : List Operation) (ch : Channel) :
    c'.performAll ops ch = c.performAll ops ch := by
  induction ops generalizing ch with
  | nil => rfl
  | cons o ops ih => simp only [Connection.performAll, h.perform, ih]

end Connection.SameButPassword

/-! ### Arguments -/

/-- Values of an argument that are the same, or texts of the password. -/
def OtherPassword (name : Text) (v v' : Value) : Prop :=
  v = v' ∨ name = Field.password.name ∧ ∃ t t' : Text, v = .text t ∧ v' = .text t'

variable {given given' overrides overrides' : Members} {j : Log.Journal}

/-- The password is the same argument, or a text in both. -/
lemma get?_password (h : given.Alike OtherPassword given') :
    given.get? Field.password.name = given'.get? Field.password.name ∨
      ∃ t t' : Text, given.get? Field.password.name = some (.text t) ∧
        given'.get? Field.password.name = some (.text t') := by
  rcases h.get?_eq_or Field.password.name with
    ⟨hnone, hnone'⟩ | ⟨v, v', hv, hv', rfl | ⟨-, t, t', rfl, rfl⟩⟩
  · exact .inl (hnone.trans hnone'.symm)
  · exact .inl (hv.trans hv'.symm)
  · exact .inr ⟨t, t', hv, hv'⟩

/-- The arguments of other fields are the same. -/
lemma get?_field (h : given.Alike OtherPassword given') (field : Field)
    (hfield : field ≠ .password) : given.get? field.name = given'.get? field.name := by
  have hname : field.name ≠ Field.password.name := by
    revert hfield
    cases field <;> decide
  rcases h.get?_eq_or field.name with ⟨hnone, hnone'⟩ | ⟨v, v', hv, hv', rfl | ⟨hpassword, -⟩⟩
  · exact hnone.trans hnone'.symm
  · exact hv.trans hv'.symm
  · exact absurd (Text.ofString_injective hpassword) hname

/-- Settings are refused for the same issues, or differ in the password at most. -/
lemma ofMembers_secret (h : given.Alike OtherPassword given') :
    Matches (fun s s' => ∃ password, s' = { s with password := password })
      (Settings.ofMembers given) (Settings.ofMembers given') := by
  unfold Settings.ofMembers
  rw [get?_field h .host (by decide), get?_field h .username (by decide),
    get?_field h .service (by decide), get?_field h .scope (by decide),
    get?_field h .timeout (by decide)]
  rcases get?_password h with hsame | ⟨t, t', ht, ht'⟩
  · rw [hsame]
    exact .refl (fun s => ⟨s.password, rfl⟩) _
  · rw [ht, ht']
    cases checkHost (given'.get? Field.host.name) <;>
      cases checkField (given'.get? Field.username.name) none <;>
      cases checkField (given'.get? Field.service.name) (some Config.defaultService) <;>
      cases checkField (given'.get? Field.scope.name) (some Config.defaultScope) <;>
      cases checkTimeout (given'.get? Field.timeout.name) <;>
      first
      | exact .error _
      | exact .ok ⟨t', rfl⟩

/-- An argument of another field is the same. -/
lemma argument_eq (h : given.Alike OtherPassword given') (field : Field)
    (hfield : field ≠ .password) : argument given field.name = argument given' field.name := by
  rw [argument, argument, get?_field h field hfield]

/-- Connections for arguments are refused for the same issues, or differ in the password at most. -/
lemma ofArguments_secret (h : given.Alike OtherPassword given') :
    Matches Connection.SameButPassword (Connection.ofArguments given)
      (Connection.ofArguments given') := by
  unfold Connection.ofArguments
  obtain ⟨issues, hchecked, hchecked'⟩ | ⟨checked, checked', hchecked, hchecked', hsettings⟩ :=
    (ofMembers_secret h).cases
  · rw [hchecked, hchecked']
    exact .error _
  · rw [hchecked, hchecked']
    exact .ok ⟨hsettings, (argument_eq h .host (by decide)).symm,
      (argument_eq h .username (by decide)).symm⟩

/-- Complete arguments differ in the password at most, or both are incomplete. -/
lemma completeArguments_secret (h : given.Alike OtherPassword given') :
    Matches (Keyed.Alike OtherPassword) (completeArguments given) (completeArguments given') := by
  have hhas : (given.has ·) = (given'.has ·) := funext h.has_eq
  unfold completeArguments
  rw [hhas, h.keys_eq]
  dsimp only
  split
  · exact .ok (h.insertMissing (fun _ _ => .inl rfl) _)
  · exact .error _

/-! ### Opening a connection -/

/-- **Connections that are opened with different passwords** are refused for the same reason, or
differ in the password; and the journal is the same. -/
theorem connect_secret (h : given.Alike OtherPassword given') (j : Log.Journal) :
    MatchesWith Connection.SameButPassword Eq (connect given j) (connect given' j) := by
  unfold connect
  obtain ⟨f, hcomplete, hcomplete'⟩ | ⟨given, given', hcomplete, hcomplete', hgiven⟩ :=
    (completeArguments_secret h).cases
  · rw [hcomplete, hcomplete']
    exact ⟨.error f, rfl⟩
  · rw [hcomplete, hcomplete']
    dsimp only
    obtain ⟨f, hopened, hopened'⟩ | ⟨c, c', hopened, hopened', hc⟩ :=
      (ofArguments_secret hgiven).cases
    · rw [hopened, hopened']
      exact ⟨.error f, rfl⟩
    · have hdetails : openedDetails c given = openedDetails c' given' := by
        obtain ⟨password, hsettings⟩ := hc.settings
        rw [openedDetails, openedDetails, argument_eq hgiven .service (by decide),
          argument_eq hgiven .scope (by decide), hsettings]
        rfl
      rw [hopened, hopened']
      dsimp only
      rw [hdetails]
      exact ⟨.ok hc, rfl⟩

/-- The arguments of settings that differ in the password differ in the password, or the same secret
is missing. -/
lemma configuredArguments_secret {c c' : Config} (h : c.AlikeBut (· = .password) c') :
    Matches (Keyed.Alike OtherPassword) (configuredArguments c) (configuredArguments c') := by
  have hget (path : Text) (default : Value) : c.get path default = c'.get path default := by
    rw [Config.get, Config.get, h.tree]
  refine (h.secret .host).bind fun host host' hhost => ?_
  refine (h.secret .username).bind fun username username' husername => ?_
  refine (h.secret .password).bind fun password password' hpassword => .ok ?_
  obtain rfl | ⟨hhidden, -⟩ := hhost
  · obtain rfl | ⟨hhidden, -⟩ := husername
    · rw [Config.service, Config.scope, Config.timeout, hget, hget, hget]
      have hrest := Keyed.Alike.refl (R := OtherPassword) (fun _ _ => .inl rfl)
      refine .cons ⟨rfl, .inl rfl⟩ (.cons ⟨rfl, .inl rfl⟩ (.cons ⟨rfl, ?_⟩ (hrest _)))
      exact hpassword.imp_right fun htexts => ⟨rfl, htexts.2⟩
    · cases hhidden
  · cases hhidden

/-- **Connections that are opened with settings that differ in the password** are refused for the
same reason, or differ in the password; and the log is the same. -/
theorem connectConfigured_secret {s s' : Session.Shared}
    (h : overrides.Alike OtherPassword overrides') (hs : s.AlikeBut (· = .password) s') :
    MatchesWith Connection.SameButPassword (fun t t' => t.log? = t'.log?)
      (connectConfigured overrides s) (connectConfigured overrides' s') := by
  have hreserved : reservedOverrides.any (fun name => overrides.has name) =
      reservedOverrides.any (fun name => overrides'.has name) := by
    simp only [h.has_eq]
  unfold connectConfigured
  rw [hreserved]
  split
  · exact ⟨.error _, hs.log?⟩
  obtain ⟨f, t, t', hload, hload', ht⟩ | ⟨c, c', t, t', hload, hload', hc, ht⟩ := hs.settings.cases
  · rw [hload, hload']
    exact ⟨.error _, ht.log?⟩
  rw [hload, hload']
  dsimp only
  obtain ⟨f, hargs, hargs'⟩ | ⟨given, given', hargs, hargs', hgiven⟩ :=
    (configuredArguments_secret hc).cases
  · rw [hargs, hargs']
    exact ⟨.error _, ht.log?⟩
  rw [hargs, hargs']
  dsimp only
  obtain ⟨f, t, t', hlog, hlog', ht⟩ | ⟨opened, _, t, t', hlog, hlog', rfl, ht⟩ := ht.log.cases
  · rw [hlog, hlog']
    exact ⟨.error _, ht.log?⟩
  rw [hlog, hlog']
  obtain ⟨hopened, hlines⟩ := connect_secret (hgiven.insertAll h) opened.journal
  refine ⟨hopened, ?_⟩
  dsimp only
  rw [hlines]

/-! ### What can be seen -/

/-- Connections that cannot be told apart: on every channel, calls and runs of operations have the
same results and leave the same requests, lines and outcomes to come. -/
def Connection.Indistinguishable (c c' : Connection) : Prop :=
  ∀ ch : Channel, (∀ ops, c.performAll ops ch = c'.performAll ops ch) ∧
    ∀ k, (c.call k).run ch = (c'.call k).run ch

/-- Connections that differ in the password cannot be told apart. -/
lemma Connection.SameButPassword.indistinguishable {c c' : Connection} (h : c.SameButPassword c') :
    c.Indistinguishable c' :=
  fun ch => ⟨fun ops => (h.performAll ops ch).symm, fun k => by rw [h.call]⟩

/-- **Secrets are not seen.**

Environments that differ in the values of secrets, none of them empty, load settings with the same
tree and the same events, which are the same lines in every journal; or they are refused for the
same reason.

Arguments that differ in the text of the password open connections that differ in the password and
cannot be told apart, or are refused for the same reason; and the journal is the same. So do
settings that differ in the password, wherever it comes from, with arguments that go over them; and
the log that is shared is the same.

**Proof sketch.** Loading tells the names and the number of secrets only (`Config.load_alike`).
Settings and log that are shared stay alike (`Session.Shared.AlikeBut.settings`,
`Session.Shared.AlikeBut.log`), so that the arguments differ in the password only; its check passes
for every text (`connect_secret`, `connectConfigured_secret`). And what a connection does depends on
other fields (`Connection.SameButPassword.performAll`). -/
theorem secrets_unseen :
    (∀ (file : Config.FileContent) (env env' dotenv dotenv' : Config.Environment),
      env.AlikeBut (fun _ => True) env' → dotenv.AlikeBut (fun _ => True) dotenv' →
      Matches
        (fun c c' => c.tree = c'.tree ∧ c.pending = c'.pending ∧
          ∀ j, (c.flush j).2 = (c'.flush j).2)
        (Config.load file (env.insertMissing dotenv))
        (Config.load file (env'.insertMissing dotenv'))) ∧
    (∀ (given given' : Members) (j : Log.Journal), given.Alike OtherPassword given' →
      Matches (fun c c' => c.SameButPassword c' ∧ c.Indistinguishable c')
        (connect given j).1 (connect given' j).1 ∧
      (connect given j).2 = (connect given' j).2) ∧
    ∀ (overrides overrides' : Members) (s s' : Session.Shared),
      overrides.Alike OtherPassword overrides' → s.AlikeBut (· = .password) s' →
      Matches (fun c c' => c.SameButPassword c' ∧ c.Indistinguishable c')
        (connectConfigured overrides s).1 (connectConfigured overrides' s').1 ∧
      (connectConfigured overrides s).2.log? = (connectConfigured overrides' s').2.log? := by
  refine ⟨fun file env env' dotenv dotenv' henv hdotenv => ?_, fun given given' j h => ?_,
    fun overrides overrides' s s' h hs => ?_⟩
  · exact (Config.load_alike file (henv.insertMissing hdotenv)).mono fun c c' hc =>
      ⟨hc.tree, hc.pending, fun j => (hc.flush j).2⟩
  · obtain ⟨hopened, hjournal⟩ := connect_secret h j
    exact ⟨hopened.mono fun _ _ hc => ⟨hc, hc.indistinguishable⟩, hjournal⟩
  · obtain ⟨hopened, hlog⟩ := connectConfigured_secret h hs
    exact ⟨hopened.mono fun _ _ hc => ⟨hc, hc.indistinguishable⟩, hlog⟩

/-- Connections that are opened with different passwords cannot be told apart; and when the password
in the environment is another one, opening a connection adds the same lines to the log. -/
theorem secrets_unseen_password :
    let given (password : Text) : Members :=
      [("instance", .text "dev"), ("username", .text "admin"), ("password", .text password),
        ("timeout", .float (.infinite false))]
    let s (password : Text) : Session.Shared := .unused .absent
      [("SERVICENOW_INSTANCE", "dev"), ("SERVICENOW_USER", "admin"),
        ("SERVICENOW_PASSWORD", password)] [] Log.Journal.plain.clock
    (given "secret").Alike OtherPassword (given "other") ∧
      (s "secret").AlikeBut (· = .password) (s "other") ∧
      (∃ c c', (connect (given "secret") .plain).1 = .ok c ∧
        (connect (given "other") .plain).1 = .ok c' ∧ c.password = .text "secret" ∧
        c'.password = .text "other" ∧ c.Indistinguishable c') ∧
      (connectConfigured [] (s "secret")).2.log? = (connectConfigured [] (s "other")).2.log? := by
  intro given s
  have hgiven : (given "secret").Alike OtherPassword (given "other") :=
    .cons ⟨rfl, .inl rfl⟩ (.cons ⟨rfl, .inl rfl⟩
      (.cons ⟨rfl, .inr ⟨rfl, "secret", "other", rfl, rfl⟩⟩ (.cons ⟨rfl, .inl rfl⟩ .nil)))
  have henvironment :
      (s "secret").environment.AlikeBut (· = .password) (s "other").environment := by
    intro envVar
    by_cases hpassword : envVar = "SERVICENOW_PASSWORD"
    · subst hpassword
      exact .inr ⟨.password, "secret", "other", rfl, rfl, rfl, rfl, rfl, rfl⟩
    · have hother : ((("SERVICENOW_PASSWORD" : String) : Text) == envVar) = false := by
        simpa using Ne.symm hpassword
      left
      simp only [s, Session.Shared.unused, Keyed.get?, hother]
      rfl
  have hs : (s "secret").AlikeBut (· = .password) (s "other") :=
    ⟨rfl, henvironment, fun _ => .inl rfl, rfl, .none, rfl⟩
  obtain ⟨c, hc, hpassword⟩ : ∃ c, (connect (given "secret") .plain).1 = .ok c ∧
      c.password = .text "secret" := ⟨_, rfl, rfl⟩
  obtain ⟨c', hc', hpassword'⟩ : ∃ c, (connect (given "other") .plain).1 = .ok c ∧
      c.password = .text "other" := ⟨_, rfl, rfl⟩
  have hopened := (secrets_unseen.2.1 _ _ .plain hgiven).1
  rw [hc, hc'] at hopened
  cases hopened with
  | ok h => exact ⟨hgiven, hs, ⟨c, c', hc, hc', hpassword, hpassword', h.2⟩,
      (secrets_unseen.2.2 [] [] _ _ .nil hs).2⟩

end TableClient.Client
