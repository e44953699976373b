import TableClient.Proofs.Client.TextSettings
import TableClient.Proofs.Url.Instance

set_option relaxedAutoImplicit false
set_option autoImplicit false

/-!
# Instances that are accepted

An instance is accepted when it is not blank, and white space around it and slashes after it ought
not to count. The check takes off white space only, and the URL takes off white space first and
slashes behind it, so that both are misled by an instance that has them in another order: one that
is nothing but slashes is accepted, and white space before the slashes gets into the base URL.

## Main results

* `TableClient.Client.strip_of_accepted` — what is accepted as an instance is not blank.
* `TableClient.Client.instances_settle_iff` — the instances of which becomes what should.
-/

namespace TableClient.Client

open Text (EndsIn)

variable {given : Members} {s s' : Settings}

/-- What passes the check of an instance is not blank. -/
lemma strip_of_checkHost {value : Option Value} {t : Text} (h : checkHost value = .ok t) :
    t.strip.isEmpty = false := by
  unfold checkHost at h
  obtain ⟨host, -, hhost⟩ := bind_eq_ok_iff.1 h
  split at hhost
  · cases hhost
  · rename_i hblank
    cases hhost
    exact Bool.eq_false_iff.2 hblank

/-- What is accepted as an instance is not blank. -/
lemma strip_of_accepted (h : Settings.ofMembers given = .ok s) : s.host.strip.isEmpty = false := by
  unfold Settings.ofMembers at h
  dsimp only at h
  split at h
  · rename_i hhost _ _ _ _ _
    cases h
    exact strip_of_checkHost hhost
  · cases h

/-- Base URLs of the same service differ exactly when their instances have different URLs. -/
lemma baseUrl_eq_iff (hscope : s.scope = s'.scope) (hservice : s.service = s'.service) :
    s.baseUrl = s'.baseUrl ↔ s.instanceUrl = s'.instanceUrl := by
  rw [baseUrl_eq, baseUrl_eq, hscope, hservice]
  constructor
  · intro h
    have hpoints := congrArg Text.points h
    exact congrArg Text.mk (List.append_cancel_right (List.append_cancel_right
      (List.append_cancel_right (List.append_cancel_right hpoints))))
  · intro h
    rw [h]

/-- **Instances that are accepted** have a URL with a scheme and without a slash behind it. Such an
instance is settled, that is, its URL does not end in white space either, has a host, is not changed
when it is given as an instance, and does not depend on white space around the instance and slashes
after it, unless white space stands before these slashes or there is no host in the instance. Among
the instances that differ in white space and slashes only, those without white space before their
slashes have one base URL, and none of the others has it.

**Proof sketch.** An instance that is accepted is not blank, so that what becomes of it is known
(`Url.settles_iff`). What is left of instances that are alike is the same (`Url.Alike.bare_eq`), and
an instance has the URL of what is left of it unless white space stands before its slashes
(`Url.ofInstance_bare_iff`). -/
theorem instances_settle_iff (h : Settings.ofMembers given = .ok s) (s' : Settings) :
    (Url.HasScheme s.instanceUrl ∧ ¬ EndsIn (· == .char '/') s.instanceUrl.points) ∧
      (Url.Settles s.host ↔ ¬ Url.LeavesBlank s.host ∧ ¬ Url.Hostless s.host) ∧
      (Url.Alike s.host s'.host → s.scope = s'.scope → s.service = s'.service →
        ¬ Url.LeavesBlank s.host → (s.baseUrl = s'.baseUrl ↔ ¬ Url.LeavesBlank s'.host)) := by
  refine ⟨⟨Url.hasScheme_ofInstance _, Url.not_endsIn_slash_ofInstance _⟩,
    Url.settles_iff (strip_of_accepted h), fun halike hscope hservice hblank => ?_⟩
  have hbare : s.instanceUrl = Url.ofInstance (Url.bare s'.host) := by
    rw [← halike.bare_eq]
    exact (Url.ofInstance_bare_iff.2 hblank).symm
  rw [baseUrl_eq_iff hscope hservice, hbare]
  exact Url.ofInstance_bare_iff

/-- The settings for an instance, a user and a password. -/
def settingsFor (host : String) : Settings :=
  ⟨host, "u", "p", Config.defaultService, Config.defaultScope, .int Config.defaultTimeout⟩

/-- An instance, a user and a password as arguments. -/
def argumentsFor (host : String) : Members :=
  [(Field.host.name, .text host), (Field.username.name, .text "u"),
    (Field.password.name, .text "p")]

/-- The instance `dev1` is settled, and with white space around it and a slash after it, it has the
same base URL. -/
theorem instances_settle_iff_dev :
    Settings.ofMembers (argumentsFor "dev1") = .ok (settingsFor "dev1") ∧
      Settings.ofMembers (argumentsFor " dev1/ ") = .ok (settingsFor " dev1/ ") ∧
      Url.Settles (settingsFor "dev1").host ∧
      (settingsFor "dev1").baseUrl = (settingsFor " dev1/ ").baseUrl := by
  have hplain : Settings.ofMembers (argumentsFor "dev1") = .ok (settingsFor "dev1") := rfl
  have hdressed : Settings.ofMembers (argumentsFor " dev1/ ") = .ok (settingsFor " dev1/ ") := rfl
  obtain ⟨-, hsettles, hurl⟩ := instances_settle_iff hplain (settingsFor " dev1/ ")
  have hblank : ¬ Url.LeavesBlank "dev1" := by decide +kernel
  have hhost : ¬ Url.Hostless "dev1" := fun h =>
    absurd ((Url.ofInstance_eq_hostless_iff (strip_of_accepted hplain)).2 h) (by decide +kernel)
  have halike : Url.Alike "dev1" " dev1/ " :=
    ⟨"dev1", ⟨[], [], by decide, by decide, rfl⟩,
      ⟨[.char ' '], [.char '/', .char ' '], by decide, by decide, rfl⟩⟩
  exact ⟨hplain, hdressed, hsettles.2 ⟨hblank, hhost⟩,
    (hurl halike rfl rfl hblank).2 (by decide +kernel)⟩

/-- White space before the slash that ends an instance gets into its base URL, so that the instances
`dev1` and `dev1 /` have different ones. The URL of the instance `a.b /` ends in white space and is
changed when it is given again, and the instance `/` has a URL without a host. All of them are
accepted. -/
theorem blank_before_slash :
    let accepted (host : String) : Prop :=
      Settings.ofMembers (argumentsFor host) = .ok (settingsFor host)
    (accepted "dev1" ∧ accepted "dev1 /" ∧ Url.Alike "dev1" "dev1 /" ∧
      (settingsFor "dev1").baseUrl = "https://dev1.service-now.com/api/now/table" ∧
      (settingsFor "dev1 /").baseUrl = "https://dev1 .service-now.com/api/now/table" ∧
      (settingsFor "dev1").baseUrl ≠ (settingsFor "dev1 /").baseUrl) ∧
    (accepted "a.b /" ∧ (settingsFor "a.b /").instanceUrl = "https://a.b " ∧
      Url.ofInstance "https://a.b " = "https://a.b") ∧
    accepted "/" ∧ (settingsFor "/").instanceUrl = Url.hostless := by
  intro accepted
  have halike : Url.Alike "dev1" "dev1 /" :=
    ⟨"dev1", ⟨[], [], by decide, by decide, rfl⟩,
      ⟨[], [.char ' ', .char '/'], by decide, by decide, rfl⟩⟩
  exact ⟨⟨rfl, rfl, halike, by decide +kernel, by decide +kernel, by decide +kernel⟩,
    ⟨rfl, by decide +kernel, by decide +kernel⟩, rfl, by decide +kernel⟩

end TableClient.Client
