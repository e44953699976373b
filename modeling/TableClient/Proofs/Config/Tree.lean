import TableClient.Config.Tree
import TableClient.Proofs.Value.WellKeyed

set_option relaxedAutoImplicit false
set_option autoImplicit false

/-!
# Paths through trees of settings

What is found at a path after a value was set at another one, when a value can be set at all, and
what is found at a path of a tree that was laid over another one.

A value is set by going through the records on the way to it, one name of the path after the other,
which is a relation between the trees before and after. Paths neither of which leads to the other
do not affect each other.

## Main definitions

* `TableClient.Config.SetAt`, `TableClient.Config.SetAll` — a tree with a value set at a path, or
  several values, as relations.
* `TableClient.Config.Passable` — the paths with nothing but records on the way.
* `TableClient.Config.Apart` — paths neither of which leads to the other.

## Main results

* `TableClient.Config.exists_setAt_iff` — a value can be set exactly at the passable paths.
* `TableClient.Config.SetAt.lookup?_self`, `TableClient.Config.SetAt.lookup?_of_apart` — what is
  found after a value was set.
* `TableClient.Config.exists_setAll_iff`, `TableClient.Config.SetAll.lookup?_of_mem` — the same for
  several values.
* `TableClient.Config.lookup?_merge_of_some`, `TableClient.Config.lookup?_merge_of_none` — what is
  found after a tree was laid over another one.
-/

namespace TableClient

/-- A value that has entries. -/
def Value.IsRecord (v : Value) : Prop := ∃ entries, v = .record entries

namespace Config

variable {tree tree' : Entries} {p q rest : List Text} {name : Text} {v w : Value}

/-! ### Following a path -/

/-- A path is followed name by name. -/
lemma valueAt?_cons (v : Value) (name : Text) (rest : List Text) :
    valueAt? v (name :: rest) = (v.member? name).bind (valueAt? · rest) := by
  cases v <;> rfl

/-- A path is followed in two parts. -/
lemma valueAt?_append (v : Value) (p q : List Text) :
    valueAt? v (p ++ q) = (valueAt? v p).bind (valueAt? · q) := by
  induction p generalizing v with
  | nil => simp [valueAt?]
  | cons name p ih =>
    rw [List.cons_append, valueAt?_cons, valueAt?_cons, Option.bind_assoc]
    exact congrArg _ (funext fun w => ih w)

/-- Only records are gone through. -/
lemma isRecord_of_valueAt? (h : valueAt? v p = some w) (hp : p ≠ []) : v.IsRecord := by
  cases p with
  | nil => exact absurd rfl hp
  | cons name rest =>
    cases v with
    | record entries => exact ⟨entries, rfl⟩
    | _ => cases h

/-- What is found on the way to a value is a record. -/
lemma isRecord_of_isPrefix (hq : q <+: p) (hne : q ≠ p) (hp : lookup? tree p = some w)
    (hv : lookup? tree q = some v) : v.IsRecord := by
  obtain ⟨r, rfl⟩ := hq
  unfold lookup? at hp hv
  rw [valueAt?_append, hv] at hp
  refine isRecord_of_valueAt? hp ?_
  rintro rfl
  exact hne (List.append_nil q).symm

/-- At a path that begins with the name of an entry that was set, what is found lies in its
value. -/
lemma lookup?_insert_self (tree : Entries) (name : Text) (rest : List Text) (v : Value) :
    lookup? (tree.insert (.text name) v) (name :: rest) = valueAt? v rest := by
  rw [lookup?, valueAt?_cons, Value.member?, Entries.get?_insert_self]
  rfl

/-- At a path that begins with another name than that of the entry that was set, what is found stays
the same. -/
lemma lookup?_insert_of_ne (tree : Entries) {name other : Text} (rest : List Text) (v : Value)
    (h : name ≠ other) :
    lookup? (tree.insert (.text name) v) (other :: rest) = lookup? tree (other :: rest) := by
  have hkey : Value.text name ≠ .text other := fun heq => h (Value.text.inj heq)
  rw [lookup?, lookup?, valueAt?_cons, valueAt?_cons, Value.member?, Value.member?,
    Entries.get?_insert_of_ne tree v hkey]

/-! ### Setting a value -/

/-- The entries in which a path goes on: those of the record that is there, or none when nothing is
there. -/
def within? : Option Value → Option Entries
  | none => some []
  | some (.record entries) => some entries
  | some _ => none

/-- One tree is another one with a value set at a path. -/
inductive SetAt : Entries → List Text → Value → Entries → Prop where
  | last (tree : Entries) (name : Text) (v : Value) :
    SetAt tree [name] v (tree.insert (.text name) v)
  | through {tree inner inner' : Entries} {name : Text} {rest : List Text} {v : Value} :
    within? (tree.get? (.text name)) = some inner → SetAt inner rest v inner' →
    SetAt tree (name :: rest) v (tree.insert (.text name) (.record inner'))

/-- Setting a value beyond the first name of a path. -/
lemma setAt?_cons (tree : Entries) (name : Text) (hrest : rest ≠ []) (v : Value) :
    setAt? tree (name :: rest) v =
      (within? (tree.get? (.text name))).bind fun inner =>
        (setAt? inner rest v).map fun inner => tree.insert (.text name) (.record inner) := by
  cases rest with
  | nil => exact absurd rfl hrest
  | cons next rest =>
    rw [setAt?]
    cases tree.get? (.text name) with
    | none => rfl
    | some w => cases w <;> rfl

/-- A path that something is set at has a name. -/
lemma SetAt.ne_nil (h : SetAt tree p v tree') : p ≠ [] := by
  cases h <;> exact List.cons_ne_nil _ _

/-- **Setting a value** is the relation. -/
theorem setAt?_eq_some_iff : setAt? tree p v = some tree' ↔ SetAt tree p v tree' := by
  constructor
  · intro h
    induction p generalizing tree tree' with
    | nil => cases h
    | cons name rest ih =>
      by_cases hrest : rest = []
      · subst hrest
        obtain rfl := Option.some.inj h
        exact .last tree name v
      · rw [setAt?_cons tree name hrest] at h
        obtain ⟨inner, hinner, hset⟩ := Option.bind_eq_some_iff.1 h
        obtain ⟨inner', hinner', rfl⟩ := Option.map_eq_some_iff.1 hset
        exact .through hinner (ih hinner')
  · intro h
    induction h with
    | last tree name v => rfl
    | through hinner hset ih => rw [setAt?_cons _ _ hset.ne_nil, hinner, Option.bind_some, ih]; rfl

/-- A path with nothing but records on the way, as far as there is anything. -/
def Passable (tree : Entries) (p : List Text) : Prop :=
  ∀ q v, q <+: p → q ≠ p → lookup? tree q = some v → v.IsRecord

/-- Paths neither of which leads to the other. -/
def Apart (p q : List Text) : Prop := ¬ p <+: q ∧ ¬ q <+: p

/-- What is found in the entries in which a path goes on is what is found in the tree. -/
lemma lookup?_within {inner : Entries} (h : within? (tree.get? (.text name)) = some inner)
    (hrest : rest ≠ []) : lookup? tree (name :: rest) = lookup? inner rest := by
  have hlookup : lookup? tree (name :: rest) =
      (tree.get? (.text name)).bind (valueAt? · rest) := rfl
  rw [hlookup]
  cases hfound : tree.get? (.text name) with
  | none =>
    rw [hfound] at h
    obtain rfl := Option.some.inj h
    cases rest with
    | nil => exact absurd rfl hrest
    | cons next rest => rfl
  | some w =>
    rw [hfound] at h
    cases w with
    | record entries =>
      obtain rfl := Option.some.inj h
      rfl
    | _ => cases h

/-- A path goes on in entries unless there is something else than a record. -/
lemma isSome_within?_iff {found : Option Value} :
    (∃ inner, within? found = some inner) ↔ ∀ v, found = some v → v.IsRecord := by
  constructor
  · rintro ⟨inner, hinner⟩ v rfl
    cases v with
    | record entries => exact ⟨entries, rfl⟩
    | _ => cases hinner
  · intro h
    cases found with
    | none => exact ⟨[], rfl⟩
    | some v =>
      obtain ⟨entries, rfl⟩ := h v rfl
      exact ⟨entries, rfl⟩

/-- A path is passable when its first name leads to entries, if anywhere, and the rest is passable
in them. -/
lemma passable_cons_iff (hrest : rest ≠ []) :
    Passable tree (name :: rest) ↔
      ∃ inner, within? (tree.get? (.text name)) = some inner ∧ Passable inner rest := by
  have hfirst : lookup? tree [name] = tree.get? (.text name) := by
    show (tree.get? (.text name)).bind (valueAt? · []) = _
    cases tree.get? (.text name) <;> rfl
  constructor
  · intro h
    have hshort : [name] ≠ name :: rest := fun heq => hrest (List.cons.inj heq).2.symm
    obtain ⟨inner, hinner⟩ := isSome_within?_iff.2 fun v hv =>
      h [name] v (List.prefix_append [name] rest) hshort (hfirst.trans hv)
    refine ⟨inner, hinner, fun q v hq hne hv => ?_⟩
    by_cases hnil : q = []
    · subst hnil
      exact ⟨inner, (Option.some.inj hv).symm⟩
    · refine h (name :: q) v ((List.prefix_cons_inj name).2 hq) ?_ ?_
      · exact fun heq => hne (List.cons.inj heq).2
      · exact (lookup?_within hinner hnil).trans hv
  · rintro ⟨inner, hinner, h⟩ q v hq hne hv
    cases q with
    | nil => exact ⟨tree, (Option.some.inj hv).symm⟩
    | cons first q =>
      obtain ⟨rfl, hq'⟩ := List.cons_prefix_cons.1 hq
      by_cases hnil : q = []
      · subst hnil
        exact isSome_within?_iff.1 ⟨inner, hinner⟩ v (hfirst.symm.trans hv)
      · refine h q v hq' ?_ ((lookup?_within hinner hnil).symm.trans hv)
        rintro rfl
        exact hne rfl

/-- **A value can be set exactly at the passable paths.**

**Proof sketch.** Induction on the path: every name but the last one has to lead to a record, if
anywhere, in which the rest of the path is passable (`passable_cons_iff`). -/
theorem exists_setAt_iff (v : Value) :
    (∃ tree', SetAt tree p v tree') ↔ p ≠ [] ∧ Passable tree p := by
  induction p generalizing tree with
  | nil => exact iff_of_false (fun ⟨_, h⟩ => h.ne_nil rfl) (fun h => h.1 rfl)
  | cons name rest ih =>
    by_cases hrest : rest = []
    · subst hrest
      refine iff_of_true ⟨_, .last tree name v⟩ ⟨List.cons_ne_nil _ _, fun q w hq hne hw => ?_⟩
      rcases List.prefix_cons_iff.1 hq with rfl | ⟨q', rfl, hq'⟩
      · exact ⟨tree, (Option.some.inj hw).symm⟩
      · obtain rfl := List.prefix_nil.1 hq'
        exact absurd rfl hne
    · rw [passable_cons_iff hrest]
      constructor
      · rintro ⟨tree', h⟩
        cases h with
        | last => exact absurd rfl hrest
        | through hinner hset => exact ⟨List.cons_ne_nil _ _, _, hinner, (ih.1 ⟨_, hset⟩).2⟩
      · rintro ⟨-, inner, hinner, hpassable⟩
        obtain ⟨inner', hset⟩ := ih.2 ⟨hrest, hpassable⟩
        exact ⟨_, .through hinner hset⟩

namespace SetAt

/-- **A value that was set is found.** -/
theorem lookup?_self (h : SetAt tree p v tree') : lookup? tree' p = some v := by
  induction h with
  | last tree name v =>
    rw [lookup?_insert_self]
    rfl
  | through _ _ ih =>
    rw [lookup?_insert_self]
    exact ih

/-- **Setting a value leaves what is found at paths apart from its own.** -/
theorem lookup?_of_apart (h : SetAt tree p v tree') (hq : Apart p q) :
    lookup? tree' q = lookup? tree q := by
  induction h generalizing q with
  | last tree name v =>
    cases q with
    | nil => exact absurd (List.nil_prefix) hq.2
    | cons other q =>
      refine lookup?_insert_of_ne tree q v ?_
      rintro rfl
      exact hq.1 (List.prefix_append [name] q)
  | @through tree inner inner' name rest v hinner hset ih =>
    cases q with
    | nil => exact absurd (List.nil_prefix) hq.2
    | cons other q =>
      by_cases hname : name = other
      · subst hname
        have hapart : Apart rest q :=
          ⟨fun hle => hq.1 ((List.prefix_cons_inj name).2 hle),
            fun hle => hq.2 ((List.prefix_cons_inj name).2 hle)⟩
        have hnil : q ≠ [] := by
          rintro rfl
          exact hapart.2 List.nil_prefix
        rw [lookup?_insert_self, lookup?_within hinner hnil]
        exact ih hapart
      · exact lookup?_insert_of_ne tree q _ hname

/-- The path of a value that was set was passable. -/
lemma passable (h : SetAt tree p v tree') : Passable tree p := ((exists_setAt_iff v).1 ⟨_, h⟩).2

/-- Setting a value leaves a value that is no record, unless it is found at the path or behind. -/
lemma lookup?_of_not_isRecord (h : SetAt tree p v tree') (hq : ¬ p <+: q)
    (hw : lookup? tree q = some w) (hleaf : ¬ w.IsRecord) : lookup? tree' q = some w := by
  have hapart : Apart p q := by
    refine ⟨hq, fun hle => ?_⟩
    have hne : q ≠ p := by
      rintro rfl
      exact hq (List.prefix_refl q)
    exact hleaf (h.passable q w hle hne hw)
  rw [h.lookup?_of_apart hapart, hw]

/-- **Setting a value leaves the passable paths apart from its own passable**, and makes no others
passable. -/
theorem passable_iff (h : SetAt tree p v tree') (hq : Apart p q) :
    Passable tree' q ↔ Passable tree q := by
  have hshort {r : List Text} (hr : r <+: q) (hrp : r <+: p) : r ≠ p := by
    rintro rfl
    exact hq.1 hr
  have happart {r : List Text} (hr : r <+: q) (hrp : ¬ r <+: p) :
      lookup? tree' r = lookup? tree r :=
    h.lookup?_of_apart ⟨fun hpr => hq.1 (hpr.trans hr), hrp⟩
  constructor
  · intro hpassable r w hr hne hw
    by_cases hrp : r <+: p
    · exact h.passable r w hrp (hshort hr hrp) hw
    · exact hpassable r w hr hne ((happart hr hrp).trans hw)
  · intro hpassable r w hr hne hw
    by_cases hrp : r <+: p
    · exact isRecord_of_isPrefix hrp (hshort hr hrp) h.lookup?_self hw
    · exact hpassable r w hr hne ((happart hr hrp).symm.trans hw)

end SetAt

/-! ### Setting several values -/

/-- One tree is another one with values set at paths, one after the other. -/
inductive SetAll : Entries → List (List Text × Value) → Entries → Prop where
  | nil (tree : Entries) : SetAll tree [] tree
  | cons {tree mid tree' : Entries} {p : List Text} {v : Value}
      {changes : List (List Text × Value)} :
    SetAt tree p v mid → SetAll mid changes tree' → SetAll tree ((p, v) :: changes) tree'

section SetAll

variable {changes : List (List Text × Value)}

/-- Setting several values leaves what is found at paths apart from theirs. -/
lemma SetAll.lookup?_of_apart (h : SetAll tree changes tree')
    (hq : ∀ change ∈ changes, Apart change.1 q) : lookup? tree' q = lookup? tree q := by
  induction h with
  | nil tree => rfl
  | cons hset _ ih =>
    obtain ⟨hfirst, hrest⟩ := List.forall_mem_cons.1 hq
    rw [ih hrest, hset.lookup?_of_apart hfirst]

/-- Setting several values leaves a value that is no record, unless it is found at one of the paths
or behind. -/
lemma SetAll.lookup?_of_not_isRecord (h : SetAll tree changes tree')
    (hq : ∀ change ∈ changes, ¬ change.1 <+: q) (hw : lookup? tree q = some w)
    (hleaf : ¬ w.IsRecord) : lookup? tree' q = some w := by
  induction h with
  | nil tree => exact hw
  | cons hset _ ih =>
    obtain ⟨hfirst, hrest⟩ := List.forall_mem_cons.1 hq
    exact ih hrest (hset.lookup?_of_not_isRecord hfirst hw hleaf)

/-- **Values that were set at paths apart from each other are found.** -/
theorem SetAll.lookup?_of_mem (h : SetAll tree changes tree')
    (hpaths : changes.Pairwise fun a b => Apart a.1 b.1) :
    ∀ change ∈ changes, lookup? tree' change.1 = some change.2 := by
  induction h with
  | nil tree => exact List.forall_mem_nil _
  | cons hset hall ih =>
    obtain ⟨hfirst, hrest⟩ := List.pairwise_cons.1 hpaths
    refine List.forall_mem_cons.2 ⟨?_, ih hrest⟩
    rw [hall.lookup?_of_apart fun change hc => ⟨(hfirst change hc).2, (hfirst change hc).1⟩]
    exact hset.lookup?_self

/-- **Values can be set at paths apart from each other exactly when these are passable** in the tree
as it is before.

**Proof sketch.** Induction on the changes: the first one leaves the paths of the others as passable
as they were (`SetAt.passable_iff`). -/
theorem exists_setAll_iff (hpaths : changes.Pairwise fun a b => Apart a.1 b.1) :
    (∃ tree', SetAll tree changes tree') ↔
      ∀ change ∈ changes, change.1 ≠ [] ∧ Passable tree change.1 := by
  induction changes generalizing tree with
  | nil => exact iff_of_true ⟨tree, .nil tree⟩ (List.forall_mem_nil _)
  | cons change changes ih =>
    obtain ⟨p, v⟩ := change
    obtain ⟨hfirst, hrest⟩ := List.pairwise_cons.1 hpaths
    rw [List.forall_mem_cons]
    constructor
    · rintro ⟨tree', h⟩
      cases h with
      | cons hset hall =>
        refine ⟨(exists_setAt_iff v).1 ⟨_, hset⟩, fun change hc => ?_⟩
        obtain ⟨hne, hpassable⟩ := (ih hrest).1 ⟨_, hall⟩ change hc
        exact ⟨hne, (hset.passable_iff (hfirst change hc)).1 hpassable⟩
    · rintro ⟨hp, hothers⟩
      obtain ⟨mid, hset⟩ := (exists_setAt_iff v).2 hp
      obtain ⟨tree', hall⟩ := (@ih mid hrest).2 fun change hc =>
        ⟨(hothers change hc).1, (hset.passable_iff (hfirst change hc)).2 (hothers change hc).2⟩
      exact ⟨tree', .cons hset hall⟩

end SetAll

/-! ### Laying one tree over another -/

section Merge

variable {base upper : Entries} {low : Option Value}

/-- A value that is laid over another one is a record as before. -/
lemma isRecord_overlay_iff : (overlay v low).IsRecord ↔ v.IsRecord := by
  cases v with
  | record entries =>
    refine iff_of_true ?_ ⟨entries, rfl⟩
    rcases low with _ | low
    · exact ⟨entries, rfl⟩
    · cases low <;> exact ⟨_, rfl⟩
  | _ => exact Iff.rfl

/-- A value that is no record is laid over another one as it is. -/
lemma overlay_of_not_isRecord (h : ¬ v.IsRecord) : overlay v low = v := by
  cases v with
  | record entries => exact absurd ⟨entries, rfl⟩ h
  | _ => rfl

/-- A value is laid over something else than a record as it is. -/
lemma overlay_of_low_not_record (h : ∀ entries, low ≠ some (.record entries)) :
    overlay v low = v := by
  cases v with
  | record entries =>
    rcases low with _ | low
    · rfl
    · cases low with
      | record entries' => exact absurd rfl (h entries')
      | _ => rfl
  | _ => rfl

/-- **What a merged record has under a key**: what the upper one has there, laid over what the lower
one has, or else what the lower one has. -/
theorem get?_mergeInto (h : (Keyed.keys upper).Pairwise fun k k' => (k == k') = false)
    (base : Entries) (key : Value) :
    (mergeInto base upper).get? key =
      ((upper.get? key).map (overlay · (base.get? key))).or (base.get? key) := by
  induction upper generalizing base with
  | nil => rfl
  | cons e upper ih =>
    obtain ⟨first, v⟩ := e
    obtain ⟨hfirst, hrest⟩ := List.pairwise_cons.1 h
    rw [mergeInto, ih hrest, Keyed.get?_insert, Keyed.get?]
    by_cases hkey : (first == key) = true
    · have hnone : Keyed.get? upper key = none := by
        refine Keyed.get?_eq_none fun e he => Bool.eq_false_iff.2 fun hsame => ?_
        have hapart := hfirst e.1 (List.mem_map_of_mem he)
        rw [BEq.trans hkey (BEq.symm hsame)] at hapart
        cases hapart
      rw [if_pos hkey, if_pos hkey, hnone, Keyed.get?_congr base hkey]
      rfl
    · rw [if_neg hkey, if_neg hkey]

/-- What is found in a value that was laid over another one where it leads somewhere itself. -/
lemma valueAt?_overlay_of_some (h : v.WellKeyed) (hw : valueAt? v p = some w) :
    valueAt? (overlay v low) p = some (overlay w (low.bind (valueAt? · p))) := by
  induction p generalizing v low with
  | nil =>
    obtain rfl := Option.some.inj hw
    cases low <;> rfl
  | cons name rest ih =>
    obtain ⟨upper, rfl⟩ := isRecord_of_valueAt? hw (List.cons_ne_nil _ _)
    rw [valueAt?_cons] at hw
    obtain ⟨u, hu, hw'⟩ := Option.bind_eq_some_iff.1 hw
    by_cases hlow : ∃ base, low = some (.record base)
    · obtain ⟨base, rfl⟩ := hlow
      have hupper : Keyed.get? upper (.text name) = some u := hu
      have hmerged : (mergeInto base upper).get? (.text name) =
          some (overlay u (Keyed.get? base (.text name))) := by
        rw [get?_mergeInto h.keys_apart, hupper]
        rfl
      show ((mergeInto base upper).get? (.text name)).bind (valueAt? · rest) = _
      rw [hmerged]
      exact ih (h.get? hu) hw'
    · have hothers : ∀ entries, low ≠ some (.record entries) := fun entries heq =>
        hlow ⟨entries, heq⟩
      have hnone : low.bind (valueAt? · (name :: rest)) = none := by
        rcases low with _ | low
        · rfl
        · cases low with
          | record base => exact absurd rfl (hothers base)
          | _ => rfl
      rw [overlay_of_low_not_record hothers, hnone,
        overlay_of_low_not_record (by simp), valueAt?_cons, hu]
      exact hw'

/-- What is found in a value that was laid over another one where it leads nowhere itself. -/
lemma valueAt?_overlay_of_none (h : v.WellKeyed) (hw : valueAt? v p = none) :
    valueAt? (overlay v low) p = none ∨
      valueAt? (overlay v low) p = low.bind (valueAt? · p) := by
  induction p generalizing v low with
  | nil => cases hw
  | cons name rest ih =>
    by_cases hrecords : (∃ upper, v = .record upper) ∧ ∃ base, low = some (.record base)
    · obtain ⟨⟨upper, rfl⟩, base, rfl⟩ := hrecords
      have hmerged := get?_mergeInto h.keys_apart base (.text name)
      have hvalue : valueAt? (overlay (.record upper) (some (.record base))) (name :: rest) =
          ((mergeInto base upper).get? (.text name)).bind (valueAt? · rest) := rfl
      rw [hvalue, hmerged]
      cases hu : Keyed.get? upper (.text name) with
      | none => exact .inr rfl
      | some u =>
        have hrest : valueAt? u rest = none := by
          rw [valueAt?_cons, Value.member?, hu] at hw
          exact hw
        exact ih (h.get? hu) hrest
    · have hsame : overlay v low = v := by
        by_cases hv : ∃ upper, v = .record upper
        · exact overlay_of_low_not_record fun base heq => hrecords ⟨hv, base, heq⟩
        · exact overlay_of_not_isRecord hv
      rw [hsame]
      exact .inl hw

/-- **Where the upper tree leads somewhere**, its value is laid over what the lower tree has
there. -/
theorem lookup?_merge_of_some (h : Value.WellKeyed (.record upper)) (base : Entries)
    (hw : lookup? upper p = some w) :
    lookup? (merge base upper) p = some (overlay w (lookup? base p)) :=
  @valueAt?_overlay_of_some p (.record upper) w (some (.record base)) h hw

/-- **Where the upper tree leads nowhere**, the merged tree has what the lower one has there, or
nothing. -/
theorem lookup?_merge_of_none (h : Value.WellKeyed (.record upper)) (base : Entries)
    (hw : lookup? upper p = none) :
    lookup? (merge base upper) p = none ∨ lookup? (merge base upper) p = lookup? base p :=
  @valueAt?_overlay_of_none p (.record upper) (some (.record base)) h hw

end Merge

end Config

end TableClient
