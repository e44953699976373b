import TableClient.Proofs.Config.Layers
import TableClient.Proofs.Text.Reading

set_option relaxedAutoImplicit false
set_option autoImplicit false

/-!
# Precedence of the sources of settings

A setting has the value that its variable stands for when the variable is set, be it in the
environment or, failing that, in the dotenv file; or else what the settings file has at its path; or
else its default. Everything else that the file has stays as it is. So settings do not affect each
other: none depends on the variable of another one.

## Main definitions

* `TableClient.Config.given?` — the text that a variable is given in the environment or the dotenv
  file.
* `TableClient.Config.Setting.ranked` — the value that a setting should have.

## Main results

* `TableClient.Config.settings_ranked` — the sources take precedence over each other as they should.
-/

namespace TableClient.Config

/-- The text that a variable is given: the one that it has in the environment, be it empty, or else
the one in the dotenv file. -/
def given? (env dotenv : Environment) (envVar : String) : Option Text :=
  (env.get? envVar).or (dotenv.get? envVar)

/-- The value that a setting should have: the one that the text of its variable stands for if the
variable is given one, or else what the file has for it, or else its default. -/
def Setting.ranked (s : Setting) (file : FileContent) (given : Option Text) : Value :=
  match given with
  | some t => convert t
  | none => (file.record?.bind (lookup? · s.path)).getD s.default

/-- The environment in which the dotenv file was filled in gives a variable its text. -/
lemma get?_filled (env dotenv : Environment) (envVar : String) :
    (env.insertMissing dotenv).get? envVar = given? env dotenv envVar :=
  Keyed.get?_insertMissing env dotenv envVar

section

variable {file : FileContent} {env : Environment} {c : Config}

/-- A loaded setting has the value that it should have. -/
lemma value_of_load (h : load file env = .ok c) (s : Setting) :
    s.value c = s.shown (s.ranked file (env.get? s.envVar)) := by
  obtain ⟨-, hall, -⟩ := of_load h
  rw [s.value_eq]
  unfold Setting.ranked
  cases hgiven : env.get? s.envVar with
  | some t =>
    have hchange : (s.path, convert t) ∈ changes env := mem_changes_iff.2 ⟨s, t, hgiven, rfl⟩
    rw [hall.lookup?_of_mem (pairwise_changes env) _ hchange]
    rfl
  | none =>
    have hapart : ∀ change ∈ changes env, Apart change.1 s.path := by
      intro change hchange
      obtain ⟨s', t, ht, rfl⟩ := mem_changes_iff.1 hchange
      refine Setting.apart_path ?_
      rintro rfl
      cases ht.symm.trans hgiven
    rw [hall.lookup?_of_apart hapart, lookup?_layer]

/-- What the file has at a path is found when it is no record and the path does not lead to a
setting or behind one. -/
lemma lookup?_of_load {entries : Entries} {p : List Text} {v : Value} (h : load file env = .ok c)
    (hrecord : file.record? = some entries) (hv : lookup? entries p = some v)
    (hleaf : ¬ v.IsRecord) (hp : ∀ s : Setting, ¬ s.path <+: p) : lookup? c.tree p = some v := by
  obtain ⟨-, hall, -⟩ := of_load h
  refine hall.lookup?_of_not_isRecord ?_ (lookup?_layer_of_not_isRecord hrecord hv hleaf) hleaf
  intro change hchange
  obtain ⟨s, t, -, rfl⟩ := mem_changes_iff.1 hchange
  exact hp s

end

/-- **The sources take precedence over each other as they should.** When settings can be loaded,
each of the five with a default of their own has the value that its variable stands for, if the
variable is given a text in the environment or else in the dotenv file; or else what the settings
file has at its path; or else its default. The directory of the log is given out as the text of that
value. What the file has at any other path, and is no record, is found there. No setting depends on
the variables of the others.

**Proof sketch.** Loading changes the tree of the defaults and the file at the paths of the settings
whose variables are set (`of_load`). These paths are apart from each other, so that each change is
found at its own path and nothing is changed at another one, as setting a value has the laws of a
lens (`SetAll.lookup?_of_mem`, `SetAll.lookup?_of_apart`). The tree without the changes has what the
file has, or the defaults (`lookup?_layer`). -/
theorem settings_ranked {file : FileContent} {env dotenv : Environment} {c : Config}
    (h : load file (env.insertMissing dotenv) = .ok c) :
    (∀ s : Setting, s.value c = s.shown (s.ranked file (given? env dotenv s.envVar))) ∧
    (∀ (entries : Entries) (path : Text) (v : Value), file.record? = some entries →
      lookup? entries (pathOf path) = some v → ¬ v.IsRecord →
      (∀ s : Setting, ¬ s.path <+: pathOf path) → ∀ default, c.get path default = v) ∧
    ∀ (env' dotenv' : Environment) (c' : Config) (s : Setting),
      load file (env'.insertMissing dotenv') = .ok c' →
      given? env' dotenv' s.envVar = given? env dotenv s.envVar → s.value c' = s.value c := by
  refine ⟨fun s => ?_, fun entries path v hrecord hv hleaf hpath default => ?_,
    fun env' dotenv' c' s h' hsame => ?_⟩
  · rw [value_of_load h s, get?_filled]
  · rw [get, lookup?_of_load h hrecord hv hleaf hpath]
    rfl
  · rw [value_of_load h s, value_of_load h' s, get?_filled, get?_filled, hsame]

/-- The namespace is set to the empty text, which the dotenv file does not replace; the service is
set in the dotenv file only; the settings file has null as timeout, and a list in place of the
settings of the log. -/
theorem settings_ranked_null_timeout :
    let json : String := "\x7b\"servicenow\":\x7b\"timeout\":null\x7d,\"logging\":[]\x7d"
    let file : FileContent := .bytes (Text.Utf8.encode json.toList) ""
    let env : Environment := [("SERVICENOW_NAMESPACE", "")]
    let dotenv : Environment :=
      [("SERVICENOW_NAMESPACE", "global"), ("SERVICENOW_API_NAME", "true")]
    ∃ c, load file (env.insertMissing dotenv) = .ok c ∧ c.service = .bool true ∧
      c.scope = .text "" ∧ c.timeout = .null ∧ c.logLevel = .text "INFO" ∧
      c.logDirectory = "logs" := by
  intro json file env dotenv
  let entries : Entries :=
    [(.text "servicenow", .record [(.text "timeout", .null)]), (.text "logging", .list [])]
  have hdecoded : Text.Utf8.decode? (Text.Utf8.encode json.toList) = some json.toList :=
    Text.Utf8.decode?_encode json.toList
  have hread : Json.readChars json.toList = .ok (.record entries) := by
    simp only [json, String.reduceToList]
    cbv
  have hrecord : file.record? = some entries := by
    rw [FileContent.record?_bytes hdecoded, hread]
  have hgroups : ∀ s : Setting, (env.insertMissing dotenv).get? s.envVar ≠ none →
      file.SparesGroup s := by
    intro s hset found v hfound hv
    obtain rfl := Option.some.inj (hrecord.symm.trans hfound)
    cases s with
    | level => exact absurd rfl hset
    | directory => exact absurd rfl hset
    | _ => exact ⟨_, (Option.some.inj hv).symm⟩
  have haccepted : file.Accepted :=
    (FileContent.accepted_bytes_iff hdecoded).2 (.inr ⟨entries, hread⟩)
  obtain ⟨tree, htree⟩ := (exists_setAll_changes_iff file _).2 hgroups
  obtain ⟨c, hc, -⟩ := exists_load haccepted htree
  obtain ⟨hranked, -, -⟩ := settings_ranked hc
  have hfile (s : Setting) : s.ranked file none = (lookup? entries s.path).getD s.default := by
    rw [Setting.ranked, hrecord]
    rfl
  refine ⟨c, hc, hranked .service, hranked .scope, (hranked .timeout).trans (hfile .timeout),
    (hranked .level).trans (hfile .level), ?_⟩
  have hdirectory :=
    (hranked .directory).trans (congrArg Setting.directory.shown (hfile .directory))
  exact Value.text.inj hdirectory

end TableClient.Config
