import TableClient.Proofs.Config.Layers
import TableClient.Proofs.Text.Reading

set_option relaxedAutoImplicit false
set_option autoImplicit false

/-!
# Tolerance of the loading of settings

Loading ought to put up with anything: a file that cannot be used leaves the defaults in force and
an event that tells of it, and each variable that is set takes effect. It does so whenever it
succeeds. It fails when the file is not UTF-8 text, holds a value that is no record or one that the
reader does not take, and when a variable is set whose setting is in a group that the file has
something else than a record for.

## Main definitions

* `TableClient.Config.FileContent.Unusable` — the files without a record.
* `TableClient.Config.Tolerates` — the settings that loading ought to end with.

## Main results

* `TableClient.Config.exists_tolerates_iff` — when loading ends with such settings.
-/

namespace TableClient.Config

/-- A settings file that is there without a record to lay over the defaults. -/
def FileContent.Unusable (file : FileContent) : Prop :=
  file ≠ .absent ∧ file.record? = none

/-- What stands under the name of the file can end in an error. -/
lemma FileContent.error?_of_ne_absent (file : FileContent) (h : file ≠ .absent) :
    ∃ error, file.error? = some error := by
  cases file with
  | absent => exact absurd rfl h
  | directory error | bytes _ error => exact ⟨error, rfl⟩

/-- Settings are loaded from a file and an environment and put up with what is in them. -/
structure Tolerates (file : FileContent) (env : Environment) (c : Config) : Prop where
  /-- Loading succeeds. -/
  loaded : load file env = .ok c
  /-- A file that cannot be used is as good as none. -/
  fallsBack : file.Unusable → ∃ c', load .absent env = .ok c' ∧ c.tree = c'.tree
  /-- There is an event that tells of a file that cannot be used, with the error. -/
  tells : file.Unusable → ∃ error, file.error? = some error ∧ fileRefused error ∈ c.pending
  /-- Each variable that is set takes effect. -/
  overrides : ∀ (s : Setting) (t : Text), env.get? s.envVar = some t →
    lookup? c.tree s.path = some (convert t)

section

variable {file : FileContent} {env : Environment} {c : Config}

/-- Settings that were loaded put up with what is in the file and the environment. -/
lemma tolerates_of_load (h : load file env = .ok c) : Tolerates file env c := by
  obtain ⟨-, hall, hevent⟩ := of_load h
  refine ⟨h, fun hunusable => ?_, fun hunusable => ?_, fun s t ht => ?_⟩
  · -- without a record, the file leaves the layer that no file leaves
    rw [FileContent.layer_of_none hunusable.2] at hall
    have habsent : FileContent.absent.Accepted := trivial
    obtain ⟨c', hc', htree⟩ := exists_load habsent hall
    exact ⟨c', hc', htree.symm⟩
  · obtain ⟨error, herror⟩ := file.error?_of_ne_absent hunusable.1
    exact ⟨error, herror, hevent hunusable.2 error herror⟩
  · exact hall.lookup?_of_mem (pairwise_changes env) _ (mem_changes_iff.2 ⟨s, t, ht, rfl⟩)

end

/-- **When loading puts up with the file and the environment**: exactly when the file is none,
cannot be opened, or is UTF-8 text that holds a record or does not follow the grammar, and no
variable is set whose setting is in a group that the file has something else than a record for.

**Proof sketch.** Settings that are loaded are as they ought to be (`tolerates_of_load`), so that it
remains when loading succeeds. It does if the file is accepted and the changes by the variables can
be made, one after the other (`of_load`, `exists_load`). Since their paths are apart from each
other, that is when each can be made on its own, which only something in place of its group prevents
(`exists_setAll_changes_iff`). -/
theorem exists_tolerates_iff (file : FileContent) (env : Environment) :
    (∃ c, Tolerates file env c) ↔
      file.Accepted ∧ ∀ s : Setting, env.get? s.envVar ≠ none → file.SparesGroup s := by
  rw [← exists_setAll_changes_iff]
  constructor
  · rintro ⟨c, hc⟩
    obtain ⟨haccepted, hall, -⟩ := of_load hc.loaded
    exact ⟨haccepted, c.tree, hall⟩
  · rintro ⟨haccepted, tree, htree⟩
    obtain ⟨c, hc, -⟩ := exists_load haccepted htree
    exact ⟨c, tolerates_of_load hc⟩

/-- An empty list in the file ends the loading, and so does one in place of a group when a variable
sets one of its settings. -/
theorem load_list_refused :
    load (.bytes (Text.Utf8.encode "[]".toList) "") [] = .error .notRecord ∧
    load (.bytes (Text.Utf8.encode "\x7b\"logging\":[]\x7d".toList) "") [("LOG_DIR", "x")] =
      .error .unusableValue := by
  constructor
  · have hread : Json.readChars "[]".toList = .ok (.list []) := by
      simp only [String.reduceToList]
      cbv
    rw [load, fileLayer_bytes (Text.Utf8.decode?_encode _), hread]
    rfl
  · have hread : Json.readChars "\x7b\"logging\":[]\x7d".toList =
        .ok (.record [(.text "logging", .list [])]) := by
      simp only [String.reduceToList]
      cbv
    rw [load, fileLayer_bytes (Text.Utf8.decode?_encode _), hread]
    rfl

end TableClient.Config
