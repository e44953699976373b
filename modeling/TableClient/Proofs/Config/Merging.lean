import TableClient.Proofs.Config.Tree

set_option relaxedAutoImplicit false
set_option autoImplicit false

/-!
# What one tree laid over another means

One tree that is laid over another is described by what is found in it, path by path, and by the
keys of its records. Where the upper tree leads to a value that is no record, this value is found;
where it leads to a record, the merge of the records of both, or the upper one if the lower tree has
no record there. Where the upper tree leads nowhere, what the lower tree has is found, unless the
upper tree hides it on the way. The keys of a record are those of the lower one, in order, and then
the new ones of the upper one, in order, each of them once.

## Main definitions

* `TableClient.Config.SharedPath` — the paths along which both trees have records.
* `TableClient.Config.HiddenPath` — the paths behind something of the upper tree that hides the
  lower one.
* `TableClient.Config.entriesAt` — the entries of the record at a path.

## Main results

* `TableClient.Config.keys_mergeInto`, `TableClient.Config.wellKeyed_overlay` — the keys of a merged
  record, each of them once.
* `TableClient.Config.lookup?_merge_of_hidden`, `TableClient.Config.lookup?_merge_of_not_hidden` —
  what is found where the upper tree leads nowhere.
* `TableClient.Config.merge_by_paths` — all of it.
-/

namespace TableClient.Config

open Value (WellKeyed)

/-- Both trees have records along a path, at its end included. -/
def SharedPath (base upper : Entries) (p : List Text) : Prop :=
  ∀ q, q <+: p →
    (∃ low, lookup? base q = some (.record low)) ∧ ∃ high, lookup? upper q = some (.record high)

/-- On the way to the end of a path, the upper tree has a value that is no record, or a record where
the lower tree has none. -/
def HiddenPath (base upper : Entries) (p : List Text) : Prop :=
  ∃ q v, q <+: p ∧ q ≠ p ∧ lookup? upper q = some v ∧
    (¬ v.IsRecord ∨ ∀ low, lookup? base q ≠ some (.record low))

/-- The entries of the record that a path leads to, or none when it leads to something else. -/
def entriesAt (tree : Entries) (p : List Text) : Entries :=
  match lookup? tree p with
  | some (.record entries) => entries
  | _ => []

variable {base upper : Entries} {low : Option Value} {v w : Value} {p q : List Text}

/-! ### The keys of a merged record -/

/-- The same keys are found after an entry of another key was set. -/
lemma has_insert_of_ne {key other : Value} (h : (key == other) = false) :
    Keyed.has (base.insert key v) other = base.has other := by
  rw [Keyed.has_eq_any, Keyed.has_eq_any, Keyed.keys_insert]
  split
  · rfl
  · rw [List.any_append, List.any_cons, List.any_nil, h, Bool.or_false, Bool.or_false]

/-- **The keys of a merged record**: those of the lower one, and behind them the new ones of the
upper one. -/
theorem keys_mergeInto (h : (Keyed.keys upper).Pairwise fun k k' => (k == k') = false)
    (base : Entries) :
    (mergeInto base upper).keys = base.keys ++ (Keyed.keys upper).filter (!base.has ·) := by
  induction upper generalizing base with
  | nil => exact (List.append_nil _).symm
  | cons e upper ih =>
    obtain ⟨key, v⟩ := e
    obtain ⟨hapart, hrest⟩ := List.pairwise_cons.1 h
    have hsame : (Keyed.keys upper).filter
          (!(base.insert key (overlay v (base.get? key))).has ·) =
        (Keyed.keys upper).filter (!base.has ·) :=
      List.filter_congr fun other hother => by rw [has_insert_of_ne (hapart other hother)]
    rw [mergeInto, ih hrest, hsame, Keyed.keys_insert]
    show _ = base.keys ++ List.filter _ (key :: Keyed.keys upper)
    by_cases hkey : base.has key = true
    · rw [if_pos hkey, List.filter_cons_of_neg (by simpa using hkey)]
    · rw [if_neg hkey, List.filter_cons_of_pos (by simpa using hkey), List.append_assoc,
        List.singleton_append]

/-- Laying entries over well-keyed ones keeps them well-keyed, if laying each of their values over
well-keyed ones does. -/
lemma wellKeyed_mergeInto (hbase : WellKeyed (.record base))
    (h : ∀ e ∈ upper, ∀ low : Option Value, (∀ u, low = some u → WellKeyed u) →
      WellKeyed (overlay e.2 low)) : WellKeyed (.record (mergeInto base upper)) := by
  induction upper generalizing base with
  | nil => exact hbase
  | cons e upper ih =>
    obtain ⟨hfirst, hrest⟩ := List.forall_mem_cons.1 h
    exact ih (hbase.insert (hfirst _ fun u hu => hbase.get? hu)) hrest

/-- **Laying a well-keyed value over another one** gives a well-keyed value.

**Proof sketch.** Induction on the upper value: a record is laid over another one entry by entry,
and each entry is set to a value that is well-keyed as the induction has it. -/
theorem wellKeyed_overlay (h : WellKeyed v) :
    ∀ low : Option Value, (∀ u, low = some u → WellKeyed u) → WellKeyed (overlay v low) := by
  induction h with
  | @record upper hkeys hvalues ih =>
    intro low hlow
    by_cases hrecord : ∃ base, low = some (.record base)
    · obtain ⟨base, rfl⟩ := hrecord
      exact wellKeyed_mergeInto (hlow _ rfl) ih
    · rw [overlay_of_low_not_record fun base heq => hrecord ⟨base, heq⟩]
      exact .record hkeys hvalues
  | other h =>
    intro low _
    rw [overlay_of_not_isRecord fun ⟨entries, heq⟩ => h entries heq]
    exact .other h

/-! ### What is found at a path -/

/-- What is found in a well-keyed value is well-keyed. -/
lemma wellKeyed_valueAt? (h : WellKeyed v) (hw : valueAt? v p = some w) : WellKeyed w := by
  induction p generalizing v with
  | nil =>
    obtain rfl := Option.some.inj hw
    exact h
  | cons name rest ih =>
    obtain ⟨entries, rfl⟩ := isRecord_of_valueAt? hw (List.cons_ne_nil _ _)
    rw [valueAt?_cons] at hw
    obtain ⟨u, hu, hw⟩ := Option.bind_eq_some_iff.1 hw
    exact ih (h.get? hu) hw

/-- Where a path leads to a record, there are records all along it. -/
lemma exists_record_of_isPrefix {tree entries : Entries} (hq : q <+: p)
    (h : lookup? tree p = some (.record entries)) :
    ∃ entries', lookup? tree q = some (.record entries') := by
  by_cases hne : q = p
  · subst hne
    exact ⟨entries, h⟩
  · obtain ⟨r, rfl⟩ := id hq
    have happend := valueAt?_append (.record tree) q r
    obtain ⟨u, hu, -⟩ := Option.bind_eq_some_iff.1 (happend.symm.trans h)
    have hplace : lookup? tree q = some u := hu
    obtain ⟨entries', rfl⟩ := isRecord_of_isPrefix hq hne h hplace
    exact ⟨entries', hplace⟩

/-- Two trees share the paths at which both have a record. -/
lemma sharedPath_iff : SharedPath base upper p ↔
    (∃ low, lookup? base p = some (.record low)) ∧
      ∃ high, lookup? upper p = some (.record high) := by
  constructor
  · exact fun h => h p (List.prefix_refl p)
  · rintro ⟨⟨low, hlow⟩, high, hhigh⟩ q hq
    exact ⟨exists_record_of_isPrefix hq hlow, exists_record_of_isPrefix hq hhigh⟩

/-- **Nothing is found at a hidden path** that the upper tree leads nowhere at: at the place that
hides it, the merged tree has what the upper one has. -/
theorem lookup?_merge_of_hidden (h : WellKeyed (.record upper)) (hhidden : HiddenPath base upper p)
    (hp : lookup? upper p = none) : lookup? (merge base upper) p = none := by
  obtain ⟨q, v, ⟨r, rfl⟩, -, hv, hhides⟩ := hhidden
  have hplace : overlay v (lookup? base q) = v := by
    rcases hhides with hleaf | hnone
    · exact overlay_of_not_isRecord hleaf
    · exact overlay_of_low_not_record hnone
  have hmerged := lookup?_merge_of_some h base hv
  rw [hplace] at hmerged
  rw [lookup?, valueAt?_append] at hp ⊢
  rw [lookup?] at hv hmerged
  rw [hv] at hp
  rw [hmerged]
  exact hp

/-- A path is hidden if its rest is hidden in the records under its first name. -/
lemma HiddenPath.cons {low high : Entries} {name : Text} (h : HiddenPath low high p)
    (hlow : base.get? (.text name) = some (.record low))
    (hhigh : upper.get? (.text name) = some (.record high)) :
    HiddenPath base upper (name :: p) := by
  have hbase (q : List Text) : lookup? base (name :: q) = lookup? low q := by
    rw [lookup?, valueAt?_cons, Value.member?, hlow]
    rfl
  have hupper (q : List Text) : lookup? upper (name :: q) = lookup? high q := by
    rw [lookup?, valueAt?_cons, Value.member?, hhigh]
    rfl
  obtain ⟨q, v, hq, hne, hv, hhides⟩ := h
  refine ⟨name :: q, v, (List.prefix_cons_inj name).2 hq, ?_, (hupper q).trans hv, ?_⟩
  · exact fun heq => hne (List.cons.inj heq).2
  · rwa [hbase]

/-- **What the lower tree has is found at the other paths** that the upper tree leads nowhere at.

**Proof sketch.** Induction on the path. If the upper tree has nothing under the first name, the
merged one has what the lower one has there. Otherwise both have records there, as the path is not
hidden, and the rest of the path is not hidden in them. -/
theorem lookup?_merge_of_not_hidden (h : WellKeyed (.record upper))
    (hhidden : ¬ HiddenPath base upper p) (hp : lookup? upper p = none) :
    lookup? (merge base upper) p = lookup? base p := by
  induction p generalizing base upper with
  | nil => cases hp
  | cons name rest ih =>
    have hmerged := get?_mergeInto h.keys_apart base (.text name)
    rw [lookup?, valueAt?_cons, Value.member?] at hp
    rw [lookup?, lookup?, valueAt?_cons, valueAt?_cons, Value.member?, Value.member?, merge,
      hmerged]
    cases hu : upper.get? (.text name) with
    | none => rfl
    | some u =>
      rw [hu] at hp
      have hrest : name :: rest ≠ [name] := by
        intro heq
        obtain rfl := (List.cons.inj heq).2
        cases hp
      have hfirst (tree : Entries) : lookup? tree [name] = tree.get? (.text name) := by
        rw [lookup?, valueAt?_cons, Value.member?]
        cases tree.get? (.text name) <;> rfl
      have hplace : ¬ (¬ u.IsRecord ∨ ∀ low, lookup? base [name] ≠ some (.record low)) :=
        fun hhides => hhidden ⟨[name], u, List.prefix_append [name] rest, hrest.symm,
          (hfirst upper).trans hu, hhides⟩
      rw [not_or, not_not, not_forall] at hplace
      obtain ⟨⟨high, rfl⟩, low, hlow⟩ := hplace
      rw [not_not, hfirst] at hlow
      rw [hlow]
      exact ih (h.get? hu) (fun hinner => hhidden (hinner.cons hlow hu)) hp

/-! ### The meaning of a merge -/

/-- The entries at a path that leads to a record. -/
lemma entriesAt_of_record {tree entries : Entries} (h : lookup? tree p = some (.record entries)) :
    entriesAt tree p = entries := by
  rw [entriesAt, h]

/-- There are no entries at a path that leads to no record. -/
lemma entriesAt_of_not_record {tree : Entries}
    (h : ∀ entries, lookup? tree p ≠ some (.record entries)) : entriesAt tree p = [] := by
  unfold entriesAt
  split
  · rename_i entries hentries
    exact absurd hentries (h entries)
  · rfl

/-- **The keys at a path of a merged tree**: the record there is that of one of the trees, or the
merge of those of both. -/
theorem keys_of_lookup?_merge (h : WellKeyed (.record upper)) {entries : Entries}
    (hentries : lookup? (merge base upper) p = some (.record entries)) :
    entries.keys = (entriesAt base p).keys ++
      (entriesAt upper p).keys.filter (!(entriesAt base p).has ·) := by
  cases hv : lookup? upper p with
  | none =>
    have hhidden : ¬ HiddenPath base upper p := fun hhidden =>
      nomatch (lookup?_merge_of_hidden h hhidden hv).symm.trans hentries
    rw [lookup?_merge_of_not_hidden h hhidden hv] at hentries
    have hnowhere : ∀ entries, lookup? upper p ≠ some (.record entries) := by simp [hv]
    rw [entriesAt_of_record hentries, entriesAt_of_not_record hnowhere]
    exact (List.append_nil _).symm
  | some v =>
    have hmerged := Option.some.inj ((lookup?_merge_of_some h base hv).symm.trans hentries)
    obtain ⟨high, rfl⟩ := isRecord_overlay_iff.1 (⟨entries, hmerged⟩ : (overlay v _).IsRecord)
    rw [entriesAt_of_record hv]
    by_cases hlow : ∃ low, lookup? base p = some (.record low)
    · obtain ⟨low, hlow⟩ := hlow
      rw [hlow] at hmerged
      rw [entriesAt_of_record hlow, ← Value.record.inj hmerged]
      exact keys_mergeInto (wellKeyed_valueAt? h hv).keys_apart low
    · rw [not_exists] at hlow
      rw [overlay_of_low_not_record hlow] at hmerged
      rw [entriesAt_of_not_record hlow, ← Value.record.inj hmerged]
      exact (List.filter_eq_self.2 fun _ _ => rfl).symm

/-- **What a tree laid over another means.**

Where the upper tree leads to a value that is no record, this value is found. Where it leads to a
record, the merge of both records is found if both trees have records along the path, and the upper
record otherwise. Where it leads nowhere, what the lower tree has is found, but for the paths that
are hidden, where nothing is. And the keys of a record at any path are those of the lower one in
order, and then the new ones of the upper one in order, each of them once.

**Proof sketch.** Where the upper tree leads somewhere, its value is laid over what the lower tree
has (`lookup?_merge_of_some`), so that it remains to tell whether both are records
(`sharedPath_iff`). The keys at a path follow from what is found there: the record is merged
(`keys_mergeInto`), or that of one of the trees. -/
theorem merge_by_paths (hbase : WellKeyed (.record base)) (hupper : WellKeyed (.record upper)) :
    (∀ p v, lookup? upper p = some v → ¬ v.IsRecord → lookup? (merge base upper) p = some v) ∧
    (∀ p high, lookup? upper p = some (.record high) →
      (∀ low, SharedPath base upper p → lookup? base p = some (.record low) →
        lookup? (merge base upper) p = some (.record (merge low high))) ∧
      (¬ SharedPath base upper p → lookup? (merge base upper) p = some (.record high))) ∧
    (∀ p, lookup? upper p = none →
      (HiddenPath base upper p → lookup? (merge base upper) p = none) ∧
      (¬ HiddenPath base upper p → lookup? (merge base upper) p = lookup? base p)) ∧
    ∀ (p : List Text) (entries : Entries),
      lookup? (merge base upper) p = some (.record entries) →
      entries.keys = (entriesAt base p).keys ++
        (entriesAt upper p).keys.filter (!(entriesAt base p).has ·) ∧
      entries.keys.Pairwise fun k k' => (k == k') = false := by
  refine ⟨fun p v hv hleaf => ?_, fun p high hhigh => ⟨fun low _ hlow => ?_, fun hshared => ?_⟩,
    fun p hp => ⟨fun hhidden => lookup?_merge_of_hidden hupper hhidden hp,
      fun hhidden => lookup?_merge_of_not_hidden hupper hhidden hp⟩,
    fun p entries hentries => ⟨keys_of_lookup?_merge hupper hentries, ?_⟩⟩
  · rw [lookup?_merge_of_some hupper base hv, overlay_of_not_isRecord hleaf]
  · rw [lookup?_merge_of_some hupper base hhigh, hlow]
    rfl
  · rw [lookup?_merge_of_some hupper base hhigh, overlay_of_low_not_record]
    exact fun low hlow => hshared (sharedPath_iff.2 ⟨⟨low, hlow⟩, high, hhigh⟩)
  · have hmerged : WellKeyed (.record (merge base upper)) :=
      wellKeyed_overlay hupper (some (.record base)) fun u hu => Option.some.inj hu ▸ hbase
    exact (wellKeyed_valueAt? hmerged hentries).keys_apart

/-- A number replaces the record of the lower tree and hides what is in it, a record replaces a
number, and the records under the name that leads to records in both trees are merged. -/
theorem merge_by_paths_nested :
    let base : Entries := [(.text "a", .record [(.text "x", .int 1),
      (.text "y", .record [(.text "z", .int 2)])]), (.text "b", .int 3)]
    let upper : Entries := [(.text "c", .null), (.text "b", .record [(.text "z", .int 4)]),
      (.text "a", .record [(.text "w", .int 5), (.text "y", .int 6)])]
    let merged := merge base upper
    WellKeyed (.record base) ∧ WellKeyed (.record upper) ∧
      lookup? merged ["a", "y"] = some (.int 6) ∧
      lookup? merged ["b"] = some (.record [(.text "z", .int 4)]) ∧
      lookup? merged ["a", "y", "z"] = none ∧ lookup? merged ["a", "x"] = some (.int 1) ∧
      ∃ inner : Entries, lookup? merged ["a"] = some (.record inner) ∧
        merged.keys = [.text "a", .text "b", .text "c"] ∧
        inner.keys = [.text "x", .text "y", .text "w"] := by
  intro base upper merged
  have hint (n : Int) : WellKeyed (.int n) := .other (by simp)
  have hnull : WellKeyed .null := .other (by simp)
  have hz (n : Int) : WellKeyed (.record [(.text "z", .int n)]) :=
    @WellKeyed.insert [] (.text "z") _ .empty (hint n)
  have hx : WellKeyed (.record [(.text "x", .int 1)]) :=
    @WellKeyed.insert [] (.text "x") _ .empty (hint 1)
  have hw : WellKeyed (.record [(.text "w", .int 5)]) :=
    @WellKeyed.insert [] (.text "w") _ .empty (hint 5)
  have hlow : WellKeyed
      (.record [(.text "x", .int 1), (.text "y", .record [(.text "z", .int 2)])]) :=
    @WellKeyed.insert _ (.text "y") _ hx (hz 2)
  have hhigh : WellKeyed (.record [(.text "w", .int 5), (.text "y", .int 6)]) :=
    @WellKeyed.insert _ (.text "y") _ hw (hint 6)
  have hbase : WellKeyed (.record base) :=
    @WellKeyed.insert _ (.text "b") _ (@WellKeyed.insert [] (.text "a") _ .empty hlow) (hint 3)
  have hupper : WellKeyed (.record upper) :=
    @WellKeyed.insert _ (.text "a") _ (@WellKeyed.insert _ (.text "b") _
      (@WellKeyed.insert [] (.text "c") _ .empty hnull) (hz 4)) hhigh
  obtain ⟨hleaf, hrecord, hnowhere, hkeys⟩ := merge_by_paths hbase hupper
  have hnumber (n : Int) : ¬ (Value.int n).IsRecord := fun ⟨_, h⟩ => nomatch h
  refine ⟨hbase, hupper, hleaf _ _ rfl (hnumber 6), (hrecord ["b"] _ rfl).2 ?_,
    (hnowhere ["a", "y", "z"] rfl).1 ?_, (hnowhere ["a", "x"] rfl).2 ?_, _,
    (hrecord ["a"] _ rfl).1 _ (sharedPath_iff.2 ⟨⟨_, rfl⟩, _, rfl⟩) rfl,
    (hkeys [] merged rfl).1, ?_⟩
  · intro hshared
    obtain ⟨⟨_, h⟩, -⟩ := sharedPath_iff.1 hshared
    cases h
  · exact ⟨["a", "y"], .int 6, ⟨["z"], rfl⟩, by decide, rfl, .inl (hnumber 6)⟩
  · -- both trees have records at the places on the way, the root and the first name
    rintro ⟨q, v, hq, hne, hv, hhides⟩
    rcases List.prefix_cons_iff.1 hq with rfl | ⟨q', rfl, hq'⟩
    · obtain rfl := Option.some.inj hv
      exact hhides.elim (fun h => h ⟨upper, rfl⟩) (fun h => h base rfl)
    · rcases List.prefix_cons_iff.1 hq' with rfl | ⟨q'', rfl, hq''⟩
      · obtain rfl := Option.some.inj hv
        exact hhides.elim (fun h => h ⟨_, rfl⟩) (fun h => h _ rfl)
      · obtain rfl := List.prefix_nil.1 hq''
        exact hne rfl
  · exact (hkeys ["a"] _ ((hrecord ["a"] _ rfl).1 _ (sharedPath_iff.2 ⟨⟨_, rfl⟩, _, rfl⟩) rfl)).1

end TableClient.Config
