import TableClient.Config.Access
import TableClient.Proofs.Config.Tree

set_option relaxedAutoImplicit false
set_option autoImplicit false

/-!
# The layers of settings

What loading does with each of its sources. The file is one that loading accepts, or loading ends;
its record, if it holds one, is laid over the defaults. The variables that are set become changes of
the tree at paths apart from each other. Loading succeeds exactly when the file is accepted and the
changes can be made, and the tree is then the one with the changes.

## Main definitions

* `TableClient.Config.Setting` — the settings with a default of their own, with their paths, their
  variables and their values.
* `TableClient.Config.FileContent.record?`, `TableClient.Config.FileContent.error?` — the record of
  a settings file, and the wording of the error when it cannot be used.
* `TableClient.Config.FileContent.Accepted` — the files that loading accepts.
* `TableClient.Config.FileContent.layer` — the defaults with the file laid over them.
* `TableClient.Config.changes` — the changes that the variables of an environment amount to.

## Main results

* `TableClient.Config.lookup?_layer` — what the defaults and the file have for a setting.
* `TableClient.Config.exists_setAll_changes_iff` — when the changes can be made.
* `TableClient.Config.of_load`, `TableClient.Config.exists_load` — what loading does, and that it
  does it.
* `TableClient.Config.exists_load_iff` — when loading succeeds.
-/

namespace TableClient.Config

/-! ### Settings -/

/-- The settings with a default of their own. -/
inductive Setting where
  | service
  | scope
  | timeout
  | level
  | directory
deriving DecidableEq

namespace Setting

/-- All of them, in the order in which their variables are applied. -/
def all : List Setting := [service, scope, timeout, level, directory]

/-- The variable that sets a setting. -/
def envVar : Setting → String
  | service => "SERVICENOW_API_NAME"
  | scope => "SERVICENOW_NAMESPACE"
  | timeout => "SERVICENOW_TIMEOUT"
  | level => "LOG_LEVEL"
  | directory => "LOG_DIR"

/-- The record that a setting is in. -/
def group : Setting → String
  | service | scope | timeout => "servicenow"
  | level | directory => "logging"

/-- The name of a setting in its record. -/
def key : Setting → String
  | service => "api_name"
  | scope => "namespace"
  | timeout => "timeout"
  | level => "level"
  | directory => "dir"

/-- The path of a setting. -/
def path (s : Setting) : List Text := [s.group, s.key]

/-- The default of a setting. -/
def default : Setting → Value
  | service => .text defaultService
  | scope => .text defaultScope
  | timeout => .int defaultTimeout
  | level => .text defaultLevel
  | directory => .text defaultDirectory

/-- A value as a setting gives it out: the directory of the log is given out as text. -/
def shown (s : Setting) (v : Value) : Value :=
  match s with
  | directory => .text v.shown
  | _ => v

/-- The value of a setting. -/
def value (c : Config) : Setting → Value
  | service => c.service
  | scope => c.scope
  | timeout => c.timeout
  | level => c.logLevel
  | directory => .text c.logDirectory

/-- Every setting is among all of them. -/
lemma mem_all (s : Setting) : s ∈ all := by
  cases s <;> decide

/-- The variables that are applied are those of the settings, in order. -/
lemma settingVariables_eq :
    (settingVariables.map fun (envVar, dotted) => (envVar, pathOf dotted)) =
      all.map fun s => (s.envVar, s.path) := rfl

/-- The value of a setting is what is found at its path, or else its default. -/
lemma value_eq (c : Config) (s : Setting) :
    s.value c = s.shown ((lookup? c.tree s.path).getD s.default) := by
  cases s <;> rfl

/-- A default is no record. -/
lemma not_isRecord_default (s : Setting) : ¬ s.default.IsRecord := by
  rintro ⟨entries, h⟩
  cases s <;> cases h

/-- The defaults have the default of a setting at its path. -/
lemma lookup?_defaults (s : Setting) : lookup? defaults s.path = some s.default := by
  cases s <;> rfl

/-- The paths of different settings are apart. -/
lemma apart_path {s s' : Setting} (h : s ≠ s') : Apart s.path s'.path := by
  constructor
  · revert h
    cases s <;> cases s' <;> decide
  · revert h
    cases s <;> cases s' <;> decide

end Setting

/-! ### The settings file -/

namespace FileContent

/-- The record that the settings file holds, if it holds one. -/
def record? : FileContent → Option Entries
  | .bytes bs _ =>
    match (Text.Utf8.decode? bs).map Json.readChars with
    | some (.ok (.record entries)) => some entries
    | _ => none
  | _ => none

/-- The wording of the error that reading what stands under the name of the file ends with, if it
cannot be used. -/
def error? : FileContent → Option Text
  | .absent => none
  | .directory error | .bytes _ error => some error

/-- The files that loading accepts: there is none, it cannot be opened, or it is UTF-8 text that
holds a record or does not follow the grammar. -/
def Accepted : FileContent → Prop
  | .absent | .directory _ => True
  | .bytes bs _ => ∃ cs, Text.Utf8.decode? bs = some cs ∧
      (Json.readChars cs = .error .malformed ∨ ∃ entries, Json.readChars cs = .ok (.record entries))

/-- The file has nothing else than a record in place of the group of a setting. -/
def SparesGroup (file : FileContent) (s : Setting) : Prop :=
  ∀ entries v, file.record? = some entries → entries.get? (.text s.group) = some v → v.IsRecord

/-- The defaults with the record of the file laid over them, if there is one. -/
def layer (file : FileContent) : Entries :=
  match file.record? with
  | some entries => merge defaults entries
  | none => defaults

variable {file : FileContent} {entries : Entries}

/-- The record of a file is read from JSON text. -/
lemma exists_readChars (h : file.record? = some entries) :
    ∃ cs, Json.readChars cs = .ok (.record entries) := by
  unfold record? at h
  split at h
  · split at h
    · rename_i hread
      obtain rfl := Option.some.inj h
      obtain ⟨cs, -, hcs⟩ := Option.map_eq_some_iff.1 hread
      exact ⟨cs, hcs⟩
    · cases h
  · cases h

/-- The record of a file is well-keyed. -/
lemma wellKeyed (h : file.record? = some entries) : Value.WellKeyed (.record entries) :=
  let ⟨_, hcs⟩ := exists_readChars h
  Json.wellKeyed_readChars hcs

/-- A file with a record is laid over the defaults. -/
lemma layer_of_record (h : file.record? = some entries) : file.layer = merge defaults entries := by
  rw [layer, h]

/-- A file without a record leaves the defaults. -/
lemma layer_of_none (h : file.record? = none) : file.layer = defaults := by
  rw [layer, h]

section Bytes

variable {bs : List UInt8} {error : Text} {cs : List Char}

/-- Bytes that spell a text are accepted when the text holds a record or does not follow the
grammar. -/
lemma accepted_bytes_iff (h : Text.Utf8.decode? bs = some cs) :
    (FileContent.bytes bs error).Accepted ↔
      Json.readChars cs = .error .malformed ∨
        ∃ entries, Json.readChars cs = .ok (.record entries) := by
  constructor
  · rintro ⟨cs', hcs', hread⟩
    obtain rfl := Option.some.inj (h.symm.trans hcs')
    exact hread
  · exact fun hread => ⟨cs, h, hread⟩

/-- The record of bytes that spell a text is what the text holds, if it is a record. -/
lemma record?_bytes (h : Text.Utf8.decode? bs = some cs) :
    (FileContent.bytes bs error).record? =
      match Json.readChars cs with
      | .ok (.record entries) => some entries
      | _ => none := by
  rw [record?, h, Option.map_some]
  cases Json.readChars cs with
  | error f => rfl
  | ok v => cases v <;> rfl

end Bytes

end FileContent

section File

variable {bs : List UInt8} {error : Text} {cs : List Char}

/-- The event of a file whose record is laid over the defaults. -/
def fileLoaded (entries : Entries) : Event :=
  ⟨.info, "config_file_loaded",
    [("path", .text fileName), ("sections", .list (Keyed.keys entries))]⟩

/-- What becomes of bytes that spell a text. -/
lemma fileLayer_bytes (h : Text.Utf8.decode? bs = some cs) :
    fileLayer (.bytes bs error) =
      match Json.readChars cs with
      | .ok (.record entries) => .ok (merge defaults entries, fileLoaded entries)
      | .ok _ => .error .notRecord
      | .error .malformed => .ok (defaults, fileRefused error)
      | .error .hugeInteger => .error .hugeInteger
      | .error .tooDeep => .error .tooDeep := by
  rw [fileLayer, fileValue, h]
  dsimp only
  cases Json.readChars cs with
  | error f => cases f <;> rfl
  | ok v => cases v <;> rfl

/-- **What reading the file amounts to**: loading ends when the file is not accepted. Otherwise its
record is laid over the defaults, and a file without one leaves an event with the error. -/
theorem fileLayer_cases (file : FileContent) :
    (¬ file.Accepted ∧ ∃ f, fileLayer file = .error f) ∨
      (file.Accepted ∧ ∃ e, fileLayer file = .ok (file.layer, e) ∧
        (file.record? = none → ∀ error, file.error? = some error → e = fileRefused error)) := by
  cases file with
  | absent => exact .inr ⟨trivial, _, rfl, fun _ _ h => nomatch h⟩
  | directory error =>
    exact .inr ⟨trivial, _, rfl, fun _ _ h => congrArg fileRefused (Option.some.inj h)⟩
  | bytes bs error =>
    cases hdecoded : Text.Utf8.decode? bs with
    | none =>
      refine .inl ⟨?_, .notUtf8, ?_⟩
      · rintro ⟨cs, hcs, -⟩
        cases hdecoded.symm.trans hcs
      · rw [fileLayer, fileValue, hdecoded]
        rfl
    | some cs =>
      have hrecord := @FileContent.record?_bytes bs error cs hdecoded
      have hlayer := @fileLayer_bytes bs error cs hdecoded
      rw [FileContent.accepted_bytes_iff hdecoded, FileContent.layer]
      cases hread : Json.readChars cs with
      | error f =>
        rw [hread] at hrecord hlayer
        cases f with
        | malformed =>
          rw [hrecord]
          exact .inr
            ⟨.inl rfl, _, hlayer, fun _ _ h => congrArg fileRefused (Option.some.inj h)⟩
        | hugeInteger => exact .inl ⟨by simp, _, hlayer⟩
        | tooDeep => exact .inl ⟨by simp, _, hlayer⟩
      | ok v =>
        rw [hread] at hrecord hlayer
        cases v with
        | record entries =>
          rw [hrecord]
          exact .inr ⟨.inr ⟨entries, rfl⟩, _, hlayer, fun h => nomatch h⟩
        | _ => exact .inl ⟨by simp, _, hlayer⟩

end File

/-! ### What the layers have for a setting -/

section Layer

variable {file : FileContent} {entries : Entries} {p : List Text} {v : Value}

/-- What the record of the file has at a path and is no record itself stays in force. -/
lemma lookup?_layer_of_not_isRecord (hrecord : file.record? = some entries)
    (hv : lookup? entries p = some v) (hleaf : ¬ v.IsRecord) :
    lookup? file.layer p = some v := by
  rw [FileContent.layer_of_record hrecord,
    lookup?_merge_of_some (FileContent.wellKeyed hrecord) defaults hv,
    overlay_of_not_isRecord hleaf]

/-- **What the defaults and the file have for a setting**: what the file has, or else the
default. -/
theorem lookup?_layer (file : FileContent) (s : Setting) :
    (lookup? file.layer s.path).getD s.default =
      (file.record?.bind (lookup? · s.path)).getD s.default := by
  cases hrecord : file.record? with
  | none =>
    rw [FileContent.layer_of_none hrecord, s.lookup?_defaults]
    rfl
  | some entries =>
    have hkeyed := FileContent.wellKeyed hrecord
    rw [FileContent.layer_of_record hrecord, Option.bind_some]
    cases hv : lookup? entries s.path with
    | some v =>
      have hlow : ∀ low, some s.default ≠ some (.record low) := fun low heq =>
        s.not_isRecord_default ⟨low, Option.some.inj heq⟩
      rw [lookup?_merge_of_some hkeyed defaults hv, s.lookup?_defaults,
        overlay_of_low_not_record hlow]
    | none =>
      rcases lookup?_merge_of_none hkeyed defaults hv with hnone | hdefault
      · rw [hnone]
      · rw [hdefault, s.lookup?_defaults]
        rfl

/-- The defaults have a record for each group of settings. -/
lemma get?_defaults_group (s : Setting) :
    ∃ low, defaults.get? (.text s.group) = some (.record low) := by
  cases s <;> exact ⟨_, rfl⟩

/-- **A setting can be set** unless the file has something else than a record in place of its
group. -/
theorem passable_layer_iff (file : FileContent) (s : Setting) :
    Passable file.layer s.path ↔ file.SparesGroup s := by
  obtain ⟨low, hlow⟩ := get?_defaults_group s
  have hlast (inner : Entries) : Passable inner [(s.key : Text)] :=
    ((exists_setAt_iff Value.null).1 ⟨_, .last inner s.key .null⟩).2
  have hpassable : Passable file.layer s.path ↔
      ∀ v, file.layer.get? (.text s.group) = some v → v.IsRecord := by
    rw [Setting.path, passable_cons_iff (List.cons_ne_nil _ _), ← isSome_within?_iff]
    exact exists_congr fun inner => and_iff_left (hlast inner)
  rw [hpassable, FileContent.SparesGroup]
  cases hrecord : file.record? with
  | none =>
    rw [FileContent.layer_of_none hrecord, hlow]
    refine iff_of_true ?_ (fun entries v h => nomatch h)
    rintro v hv
    exact ⟨low, (Option.some.inj hv).symm⟩
  | some entries =>
    rw [FileContent.layer_of_record hrecord, merge,
      get?_mergeInto (FileContent.wellKeyed hrecord).keys_apart, hlow]
    constructor
    · rintro h entries' v heq hv
      obtain rfl := Option.some.inj heq
      rw [hv] at h
      exact isRecord_overlay_iff.1 (h _ rfl)
    · intro h v hv
      cases hu : entries.get? (.text s.group) with
      | none =>
        rw [hu] at hv
        exact ⟨low, (Option.some.inj hv).symm⟩
      | some u =>
        rw [hu] at hv
        obtain rfl := Option.some.inj hv
        exact isRecord_overlay_iff.2 (h entries u rfl hu)

end Layer

/-! ### Changes by variables -/

/-- The changes that variables amount to when they are set, in order. -/
def changesOf (env : Environment) (rows : List (String × List Text)) :
    List (List Text × Value) :=
  rows.filterMap fun (envVar, path) => (env.get? envVar).map fun t => (path, convert t)

/-- The changes that the variables of an environment amount to. -/
def changes (env : Environment) : List (List Text × Value) :=
  changesOf env (Setting.all.map fun s => (s.envVar, s.path))

section Changes

variable {env : Environment} {tree tree' : Entries}

/-- A variable that is not set does not change anything. -/
lemma changesOf_cons_of_none {envVar : String} (h : env.get? envVar = none) (path : List Text)
    (rows : List (String × List Text)) :
    changesOf env ((envVar, path) :: rows) = changesOf env rows :=
  List.filterMap_cons_none (congrArg (Option.map _) h)

/-- A variable that is set changes the value at its path. -/
lemma changesOf_cons_of_some {envVar : String} {t : Text} (h : env.get? envVar = some t)
    (path : List Text) (rows : List (String × List Text)) :
    changesOf env ((envVar, path) :: rows) = (path, convert t) :: changesOf env rows :=
  List.filterMap_cons_some (congrArg (Option.map _) h)

/-- A change is that of a setting whose variable is set. -/
lemma mem_changes_iff {change : List Text × Value} :
    change ∈ changes env ↔
      ∃ (s : Setting) (t : Text), env.get? s.envVar = some t ∧ change = (s.path, convert t) := by
  unfold changes changesOf
  rw [List.mem_filterMap]
  constructor
  · rintro ⟨pair, hpair, hchange⟩
    obtain ⟨s, -, rfl⟩ := List.mem_map.1 hpair
    obtain ⟨t, ht, rfl⟩ := Option.map_eq_some_iff.1 hchange
    exact ⟨s, t, ht, rfl⟩
  · rintro ⟨s, t, ht, rfl⟩
    refine ⟨(s.envVar, s.path), List.mem_map_of_mem s.mem_all, ?_⟩
    exact Option.map_eq_some_iff.2 ⟨t, ht, rfl⟩

/-- The paths of the changes are apart from each other. -/
lemma pairwise_changes (env : Environment) :
    (changes env).Pairwise fun a b => Apart a.1 b.1 := by
  have hall : Setting.all.Pairwise (· ≠ ·) := by decide
  refine List.pairwise_filterMap.2 (List.pairwise_map.2 (hall.imp ?_))
  intro s s' hne a ha b hb
  obtain ⟨t, -, rfl⟩ := Option.map_eq_some_iff.1 ha
  obtain ⟨t', -, rfl⟩ := Option.map_eq_some_iff.1 hb
  exact Setting.apart_path hne

/-- **When the changes can be made**: no variable is set whose setting is in a group that the file
has something else than a record for. -/
theorem exists_setAll_changes_iff (file : FileContent) (env : Environment) :
    (∃ tree, SetAll file.layer (changes env) tree) ↔
      ∀ s : Setting, env.get? s.envVar ≠ none → file.SparesGroup s := by
  rw [exists_setAll_iff (pairwise_changes env)]
  constructor
  · intro h s hset
    obtain ⟨t, ht⟩ := Option.ne_none_iff_exists'.1 hset
    have hpassable := (h (s.path, convert t) (mem_changes_iff.2 ⟨s, t, ht, rfl⟩)).2
    exact (passable_layer_iff file s).1 hpassable
  · rintro h change hchange
    obtain ⟨s, t, ht, rfl⟩ := mem_changes_iff.1 hchange
    refine ⟨List.cons_ne_nil _ _, (passable_layer_iff file s).2 (h s ?_)⟩
    rw [ht]
    exact Option.some_ne_none t

/-- A change of the tree that is applied is one of the relation, and the other way round. -/
lemma applyVariables_eq_ok_iff (rows : List (String × String)) :
    (∃ events, applyVariables env rows tree = .ok (tree', events)) ↔
      SetAll tree
        (changesOf env (rows.map fun (envVar, dotted) => (envVar, pathOf dotted))) tree' := by
  induction rows generalizing tree with
  | nil =>
    constructor
    · rintro ⟨events, h⟩
      cases h
      exact .nil _
    · intro h
      cases h
      exact ⟨[], rfl⟩
  | cons pair rows ih =>
    obtain ⟨envVar, dotted⟩ := pair
    rw [applyVariables, List.map_cons]
    cases ht : env.get? envVar with
    | none =>
      rw [changesOf_cons_of_none ht]
      exact ih
    | some t =>
      rw [changesOf_cons_of_some ht]
      dsimp only
      cases hset : setAt? tree (pathOf dotted) (convert t) with
      | none =>
        refine iff_of_false (fun ⟨events, h⟩ => nomatch h) fun h => ?_
        cases h with
        | cons hfirst _ => cases hset.symm.trans (setAt?_eq_some_iff.2 hfirst)
      | some mid =>
        constructor
        · rintro ⟨events, h⟩
          obtain ⟨⟨tree'', events'⟩, happlied, heq⟩ := map_eq_ok_iff.1 h
          cases heq
          exact .cons (setAt?_eq_some_iff.1 hset) (ih.1 ⟨events', happlied⟩)
        · intro h
          cases h with
          | cons hfirst hrest =>
            obtain rfl := Option.some.inj (hset.symm.trans (setAt?_eq_some_iff.2 hfirst))
            obtain ⟨events, happlied⟩ := ih.2 hrest
            exact ⟨_, map_eq_ok_iff.2 ⟨_, happlied, rfl⟩⟩

end Changes

/-! ### Loading -/

section Load

variable {file : FileContent} {env : Environment} {c : Config}

/-- **What loading does**: the file is one that loading accepts, the tree is that of the file with
the changes of the variables, and the event of the file is kept. -/
theorem of_load (h : load file env = .ok c) :
    file.Accepted ∧ SetAll file.layer (changes env) c.tree ∧
      (file.record? = none → ∀ error, file.error? = some error →
        fileRefused error ∈ c.pending) := by
  obtain ⟨⟨tree, e⟩, hfile, hrest⟩ := bind_eq_ok_iff.1 h
  obtain ⟨⟨tree', events⟩, happlied, hc⟩ := bind_eq_ok_iff.1 hrest
  rcases fileLayer_cases file with ⟨-, f, hf⟩ | ⟨haccepted, e', he', hevent⟩
  · cases hf.symm.trans hfile
  · cases he'.symm.trans hfile
    cases hc
    refine ⟨haccepted, ?_, fun hnone error herror => ?_⟩
    · have hall := (applyVariables_eq_ok_iff settingVariables).1 ⟨events, happlied⟩
      rwa [Setting.settingVariables_eq] at hall
    · rw [hevent hnone error herror]
      exact List.mem_cons_self

/-- **Loading does it**: when the file is accepted and the changes can be made, loading succeeds. -/
theorem exists_load (haccepted : file.Accepted) {tree : Entries}
    (htree : SetAll file.layer (changes env) tree) :
    ∃ c, load file env = .ok c ∧ c.tree = tree := by
  rcases fileLayer_cases file with ⟨hrefused, -⟩ | ⟨-, e, hfile, -⟩
  · exact absurd haccepted hrefused
  · have hall : SetAll file.layer
        (changesOf env (settingVariables.map fun (envVar, dotted) => (envVar, pathOf dotted)))
        tree := by
      rw [Setting.settingVariables_eq]
      exact htree
    obtain ⟨events, happlied⟩ := (applyVariables_eq_ok_iff settingVariables).2 hall
    refine ⟨_, bind_eq_ok_iff.2 ⟨_, hfile, bind_eq_ok_iff.2 ⟨_, happlied, rfl⟩⟩, rfl⟩

/-- **When loading succeeds**: the file is accepted, and no variable is set whose setting is in a
group that the file has something else than a record for. -/
theorem exists_load_iff (file : FileContent) (env : Environment) :
    (∃ c, load file env = .ok c) ↔
      file.Accepted ∧ ∀ s : Setting, env.get? s.envVar ≠ none → file.SparesGroup s := by
  rw [← exists_setAll_changes_iff]
  constructor
  · rintro ⟨c, hc⟩
    obtain ⟨haccepted, hall, -⟩ := of_load hc
    exact ⟨haccepted, c.tree, hall⟩
  · rintro ⟨haccepted, tree, htree⟩
    obtain ⟨c, hc, -⟩ := exists_load haccepted htree
    exact ⟨c, hc⟩

end Load

end TableClient.Config
