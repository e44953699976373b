import TableClient.Proofs.Config.Layers
import TableClient.Proofs.Config.Store.Merging

set_option relaxedAutoImplicit false
set_option autoImplicit false

/-!
# A lower tree that stays as it is

What is laid over a lower tree and changed afterwards leaves the lower tree as it is. The result of
merging leads to no record of the lower tree, at any depth. Setting goes through records only, and
makes new ones; so whatever is set, and whether it can be set or not, it writes to records that a
path leads to, and none of them comes to lead to a record of the lower tree unless the value that is
set does. A record of the lower tree that is itself set in the result is given away to it.

The lists of the lower tree are shared, with the records in them. No path leads into a list.

## Main definitions

* `TableClient.Config.Store.Leads`, `TableClient.Config.Store.Clear` — the records that a path can
  lead to from a slot, and the slots from which no path leads to a record that is to be kept.
* `TableClient.Config.Store.Spares` — changes that keep records, and open no way to them.
* `TableClient.Config.Store.Edits` — what may be done to a tree with the functions that make records
  and set values.
* `TableClient.Config.loadedTrees` — the trees behind loaded settings.

## Main results

* `TableClient.Config.Store.spares_setAt` — setting a value spares what its tree does not lead to.
* `TableClient.Config.Store.Edits.spares` — so does every sequence of edits.
* `TableClient.Config.Store.merge_isolates` — merging keeps the lower tree, whatever is set in the
  result, and the defaults are kept behind loaded settings.
* `TableClient.Config.Store.own_record_given_away` — the lower tree changes when its own record is
  set in the result and then written to.
-/

namespace TableClient.Config

namespace Store

variable {s s' s'' : Store} {kept : Address → Prop} {root current slot : Slot} {v : Value}
  {slots : Slots} {entries : Entries} {R L : List Address} {a : Nat} {name : Text}

/-! ### Where a path can lead -/

/-- A path through records leads from a slot to a record. -/
inductive Leads (s : Store) : Slot → Address → Prop where
  | here (a : Address) : Leads s (.ref a) a
  | inside {a b : Address} {slots : Slots} {key : Value} {slot : Slot} :
    s.records[a]? = some slots → (key, slot) ∈ slots → Leads s slot b → Leads s (.ref a) b

/-- No path leads from a slot to a record that is to be kept. -/
def Clear (s : Store) (kept : Address → Prop) (slot : Slot) : Prop := ∀ a, kept a → ¬ s.Leads slot a

/-- A value in a record uses no more than the record. -/
lemma HoldsEntries.exists_of_mem {key : Value} (h : HoldsEntries s slots entries R L)
    (hslot : (key, slot) ∈ slots) : ∃ v R₁ L₁, Holds s slot v R₁ L₁ ∧ R₁ ⊆ R := by
  induction slots generalizing entries R L with
  | nil => cases hslot
  | cons e slots ih =>
    cases h with
    | cons hfirst hrest =>
      rcases List.mem_cons.1 hslot with heq | hslot
      · cases heq
        exact ⟨_, _, _, hfirst, List.subset_append_left _ _⟩
      · obtain ⟨v, R₁, L₁, hheld, hsub⟩ := ih hrest hslot
        exact ⟨v, R₁, L₁, hheld, fun a ha => List.mem_append_right _ (hsub ha)⟩

/-- **A path only leads to records that are used.** -/
theorem Holds.mem_of_leads (h : Holds s slot v R L) (hleads : s.Leads slot a) : a ∈ R := by
  induction hleads generalizing v R L with
  | here a =>
    cases h
    exact List.mem_cons_self
  | inside hfound hslot _ ih =>
    cases h with
    | record hfound' hentries =>
      obtain rfl := Option.some.inj (hfound.symm.trans hfound')
      obtain ⟨v, R₁, L₁, hheld, hsub⟩ := hentries.exists_of_mem hslot
      exact List.mem_cons_of_mem _ (hsub (ih hheld))

/-- A slot whose records are all others is clear of the records to be kept. -/
lemma Holds.clear (h : Holds s slot v R L) (hapart : ∀ a, kept a → a ∉ R) : s.Clear kept slot :=
  fun a ha hleads => hapart a ha (h.mem_of_leads hleads)

namespace Clear

/-- A record from which no path leads to a record that is to be kept is not one of them. -/
lemma not_kept (h : s.Clear kept (.ref a)) : ¬ kept a := fun ha => h a ha (.here a)

/-- Nor does a path lead there from what is in the record. -/
lemma of_mem {key : Value} (h : s.Clear kept (.ref a)) (hfound : s.records[a]? = some slots)
    (hslot : (key, slot) ∈ slots) : s.Clear kept slot :=
  fun b hb hleads => h b hb (.inside hfound hslot hleads)

/-- What is found under a name of a clear slot is clear. -/
lemma item (h : s.Clear kept current) (hitem : s.item current name = .ok slot) :
    s.Clear kept slot := by
  obtain ⟨a, slots, rfl, hfound, hname⟩ := item_eq_ok_iff.1 hitem
  obtain ⟨e, he, -, rfl⟩ := Keyed.exists_mem_of_get? hname
  exact h.of_mem hfound he

/-- **A clear slot stays clear** when every entry that a record gets is clear.

**Proof sketch.** Induction on a path that would lead to a record to be kept. Each entry on it is an
entry of before, which is clear as the record is, or one that the record got. -/
theorem of_entries (h : s.Clear kept slot)
    (hentries : ∀ (a : Nat) (slots' : Slots) (e : Value × Slot),
      s'.records[a]? = some slots' → e ∈ slots' →
        (∃ slots, s.records[a]? = some slots ∧ e ∈ slots) ∨ s.Clear kept e.2) :
    s'.Clear kept slot := by
  intro b hb hleads
  induction hleads with
  | here a => exact h.not_kept hb
  | @inside a b slots' key slot hfound hslot _ ih =>
    rcases hentries a slots' (key, slot) hfound hslot with ⟨slots, hbefore, hmem⟩ | hclear
    · exact ih (h.of_mem hbefore hmem) hb
    · exact ih hclear hb

end Clear

/-! ### Changes that keep records -/

/-- A change of a store keeps records, and opens no way to them: a slot that was clear of them still
is. -/
structure Spares (kept : Address → Prop) (s s' : Store) : Prop where
  same : ∀ a, kept a → s'.records[a]? = s.records[a]?
  clear : ∀ slot, s.Clear kept slot → s'.Clear kept slot

namespace Spares

/-- Doing nothing keeps everything. -/
lemma refl (kept : Address → Prop) (s : Store) : Spares kept s s :=
  ⟨fun _ _ => rfl, fun _ h => h⟩

/-- Changes one after the other. -/
lemma trans (h : Spares kept s s') (h' : Spares kept s' s'') : Spares kept s s'' :=
  ⟨fun a ha => (h'.same a ha).trans (h.same a ha),
    fun slot hslot => h'.clear slot (h.clear slot hslot)⟩

/-- The records to be kept are still there. -/
lemma lt_length (h : Spares kept s s') (hkept : ∀ a : Nat, kept a → a < s.records.length) :
    ∀ a : Nat, kept a → a < s'.records.length := by
  intro a ha
  have hsame := h.same a ha
  rw [List.getElem?_eq_getElem (hkept a ha)] at hsame
  exact (List.getElem?_eq_some_iff.1 hsame).1

end Spares

/-- A record is added whose entries are clear. -/
lemma spares_withRecord (hkept : ∀ a : Nat, kept a → a < s.records.length)
    (hslots : ∀ e ∈ slots, s.Clear kept e.2) : Spares kept s (s.withRecord slots) := by
  refine ⟨fun a ha => (s.grows_withRecord slots).getElem? (hkept a ha), fun slot hslot => ?_⟩
  refine hslot.of_entries fun a slots' e hfound he => ?_
  rcases Nat.lt_trichotomy a s.records.length with hlt | heq | hgt
  · rw [(s.grows_withRecord slots).getElem? hlt] at hfound
    exact .inl ⟨slots', hfound, he⟩
  · subst heq
    obtain rfl := Option.some.inj ((s.getElem?_withRecord slots).symm.trans hfound)
    exact .inr (hslots e he)
  · have hlt := (List.getElem?_eq_some_iff.1 hfound).1
    rw [length_withRecord] at hlt
    omega

/-- The record that is added is clear itself. -/
lemma clear_withRecord (hkept : ∀ a : Nat, kept a → a < s.records.length)
    (hslots : ∀ e ∈ slots, s.Clear kept e.2) :
    (s.withRecord slots).Clear kept (.ref s.records.length) := by
  intro b hb hleads
  cases hleads with
  | here => exact Nat.lt_irrefl _ (hkept _ hb)
  | @inside _ _ slots' key slot hfound hslot hrest =>
    obtain rfl := Option.some.inj ((s.getElem?_withRecord slots).symm.trans hfound)
    exact (spares_withRecord hkept hslots).clear slot (hslots _ hslot) b hb hrest

/-- A clear value is set in a record that is not to be kept. -/
lemma spares_write (ha : ¬ kept a) (hslot : s.Clear kept slot) (name : Text) :
    Spares kept s (s.write a name slot) := by
  have hsame : ∀ b, b ≠ a → (s.write a name slot).records[b]? = s.records[b]? :=
    fun b hb => getElem?_write_of_ne hb s name slot
  refine ⟨fun b hb => hsame b fun heq => ha (heq ▸ hb), fun other hother => ?_⟩
  refine hother.of_entries fun b slots' e hfound he => ?_
  by_cases hb : b = a
  · subst hb
    cases hbefore : s.records[b]? with
    | none =>
      have hlt := (List.getElem?_eq_some_iff.1 hfound).1
      rw [length_write] at hlt
      exact absurd (List.getElem?_eq_none_iff.1 hbefore) (Nat.not_le_of_lt hlt)
    | some slots =>
      obtain rfl := Option.some.inj ((getElem?_write_self hbefore name slot).symm.trans hfound)
      rcases Keyed.mem_insert he with hvalue | hmem
      · exact .inr (hvalue ▸ hslot)
      · exact .inl ⟨slots, rfl, hmem⟩
  · exact .inl ⟨slots', (hsame b hb).symm.trans hfound, he⟩

/-- Setting an entry of a clear slot, whether it takes one or not. -/
lemma spares_setItem (hcurrent : s.Clear kept current) (hslot : s.Clear kept slot) (name : Text) :
    Spares kept s ((setItem current name slot).run s).2 := by
  cases current with
  | ref a => exact spares_write hcurrent.not_kept hslot name
  | _ => exact .refl kept s

/-- **Going on from a clear slot** spares what is to be kept, and leads to a clear slot. -/
theorem spares_enter (hkept : ∀ a : Nat, kept a → a < s.records.length)
    (hcurrent : s.Clear kept current) (name : Text) :
    Spares kept s ((enter current name).run s).2 ∧
      ∀ next, ((enter current name).run s).1 = .ok next →
        ((enter current name).run s).2.Clear kept next := by
  rw [run_enter]
  cases s.contains current name with
  | error f => exact ⟨.refl kept s, fun next h => nomatch h⟩
  | ok found =>
    cases found with
    | true => exact ⟨.refl kept s, fun next hnext => hcurrent.item hnext⟩
    | false =>
      have hempty : ∀ e ∈ ([] : Slots), s.Clear kept e.2 := List.forall_mem_nil _
      have hadded := spares_withRecord hkept hempty
      have hset := hadded.trans (spares_setItem (hadded.clear current hcurrent)
        (clear_withRecord hkept hempty) name)
      revert hset
      rcases (setItem current name (.ref s.records.length)).run (s.withRecord []) with
        ⟨_ | _, s'⟩
      · exact fun hset => ⟨hset, fun next h => nomatch h⟩
      · exact fun hset => ⟨hset, fun next hnext => (hset.clear current hcurrent).item hnext⟩

/-- **Setting a value at a path**, whether it can be set or not, spares the records to be kept, if
neither the tree nor the value leads to one.

**Proof sketch.** Induction on the path. Each slot that it goes on to is clear, so that the record
that is written to in the end is not to be kept. -/
theorem spares_setAt (hkept : ∀ a : Nat, kept a → a < s.records.length)
    (hcurrent : s.Clear kept current) (path : List Text) (hslot : s.Clear kept slot) :
    Spares kept s ((setAt current path slot).run s).2 := by
  induction path generalizing s current with
  | nil => exact .refl kept s
  | cons name rest ih =>
    by_cases hrest : rest = []
    · subst hrest
      exact spares_setItem hcurrent hslot name
    · obtain ⟨hentered, hnext⟩ := spares_enter hkept hcurrent name
      rw [setAt_cons current name hrest, run_bind]
      revert hentered hnext
      rcases (enter current name).run s with ⟨_ | next, s'⟩
      · exact fun hentered _ => hentered
      · exact fun hentered hnext => hentered.trans
          (ih (hentered.lt_length hkept) (hnext next rfl) (hentered.clear slot hslot))

/-! ### Edits -/

/-- What may be done to a tree without a way to the records to be kept: records are made, and values
are set at paths of the tree, whether they can be set or not. Nothing that is put into a record
leads to one that is to be kept. -/
inductive Edits (root : Slot) (kept : Address → Prop) : Store → Store → Prop where
  | refl (s : Store) : Edits root kept s s
  | make {s s' : Store} (slots : Slots) : Edits root kept s s' →
    (∀ e ∈ slots, s'.Clear kept e.2) → Edits root kept s ((alloc slots).run s').2
  | set {s s' : Store} (path : List Text) (slot : Slot) : Edits root kept s s' →
    s'.Clear kept slot → Edits root kept s ((setAt root path slot).run s').2

namespace Edits

/-- Edits one after the other. -/
lemma trans (h : Edits root kept s s') (h' : Edits root kept s' s'') : Edits root kept s s'' := by
  induction h' with
  | refl => exact h
  | make slots _ hslots ih => exact ih.make slots hslots
  | set path slot _ hslot ih => exact ih.set path slot hslot

/-- **Edits of a tree that leads to no record to be kept** spare these records. -/
theorem spares (h : Edits root kept s s') (hroot : s.Clear kept root)
    (hkept : ∀ a : Nat, kept a → a < s.records.length) : Spares kept s s' := by
  induction h with
  | refl => exact .refl kept s
  | make slots _ hslots ih => exact ih.trans (spares_withRecord (ih.lt_length hkept) hslots)
  | set path slot _ hslot ih =>
    exact ih.trans (spares_setAt (ih.lt_length hkept) (ih.clear root hroot) path hslot)

end Edits

/-- A value that is put into a store leads to none of the records that were there. -/
lemma clear_load (hkept : ∀ a : Nat, kept a → a < s.records.length) (v : Value) :
    ((load v).run s).2.Clear kept ((load v).run s).1 := by
  obtain ⟨slot, s', R, L, hrun, -, hheld, hcount⟩ := exists_run_load v s
  rw [hrun]
  have hnew (a : Nat) : R.count a ≤ 0 + fresh s s' a := by
    have := hcount a
    omega
  exact hheld.clear fun a ha => notMem_of_count_le (hnew a) (hkept a ha) rfl

mutual

/-- **Putting a value into a store** is an edit of any tree. -/
theorem edits_load {s : Store} {kept : Address → Prop} (root : Slot)
    (hkept : ∀ a : Nat, kept a → a < s.records.length) (v : Value) :
    Edits root kept s ((load v).run s).2 := by
  cases v with
  | record entries =>
    obtain ⟨slots, s', R, L, hrun, hgrows, hheld, hcount⟩ := exists_run_loadEntries entries s
    have hmade := edits_loadEntries root hkept entries
    rw [hrun] at hmade
    have hload : (load (.record entries)).run s = (alloc slots).run s' := by
      rw [load]
      exact run_bind_of_run hrun
    rw [hload]
    refine hmade.make slots fun e he => ?_
    obtain ⟨v, R₁, L₁, hslot, hsub⟩ := hheld.exists_of_mem he
    have hnew (a : Nat) : R.count a ≤ 0 + fresh s s' a := by
      have := hcount a
      omega
    exact hslot.clear fun a ha hused =>
      notMem_of_count_le (hnew a) (hkept a ha) rfl (hsub hused)
  | list items => exact edits_loadItems root hkept items
  | _ => exact .refl s

/-- Putting the entries of a record into a store is an edit. -/
theorem edits_loadEntries {s : Store} {kept : Address → Prop} (root : Slot)
    (hkept : ∀ a : Nat, kept a → a < s.records.length) (entries : List (Value × Value)) :
    Edits root kept s ((loadEntries entries).run s).2 := by
  cases entries with
  | nil => exact .refl s
  | cons e rest =>
    have hlater := fun a ha => Nat.lt_of_lt_of_le (hkept a ha) (grows_load e.2 s).length_le
    exact (edits_load root hkept e.2).trans (edits_loadEntries root hlater rest)

/-- Putting the items of a list into a store is an edit. -/
theorem edits_loadItems {s : Store} {kept : Address → Prop} (root : Slot)
    (hkept : ∀ a : Nat, kept a → a < s.records.length) (items : List Value) :
    Edits root kept s ((loadItems items).run s).2 := by
  cases items with
  | nil => exact .refl s
  | cons v rest =>
    have hlater := fun a ha => Nat.lt_of_lt_of_le (hkept a ha) (grows_load v s).length_le
    exact (edits_load root hkept v).trans (edits_loadItems root hlater rest)

end

end Store

/-! ### Trees with one laid over the other -/

namespace Layered

open Store

variable {l : Layered} {low tree tree' : Entries} {R L : List Address} {kept : Address → Prop}
  {path : List Text} {v : Value} {changes : List (List Text × Value)}

/-- Sets values in the merged tree one after the other, whether they can be set or not. -/
def setAll (l : Layered) (changes : List (List Text × Value)) : Layered :=
  changes.foldl (fun l change => (l.set change.1 change.2).2) l

/-- Setting a value in the merged tree is an edit. -/
lemma edits_set (hkept : ∀ a : Nat, kept a → a < l.store.records.length) (path : List Text)
    (v : Value) : Edits l.merged kept l.store (l.set path v).2.store :=
  (edits_load l.merged hkept v).set path _ (clear_load hkept v)

/-- Setting values in the merged tree is a sequence of edits. -/
lemma edits_setAll (hclear : l.store.Clear kept l.merged)
    (hkept : ∀ a : Nat, kept a → a < l.store.records.length)
    (changes : List (List Text × Value)) :
    Edits l.merged kept l.store (l.setAll changes).store := by
  induction changes generalizing l with
  | nil => exact .refl l.store
  | cons change changes ih =>
    have hfirst := edits_set hkept change.1 change.2
    have hspares := hfirst.spares hclear hkept
    exact hfirst.trans (ih (hspares.clear _ hclear) (hspares.lt_length hkept))

/-- The lower tree and the merged one are held. In the merged one no record is used twice, and no
path leads to a record of the lower one. -/
structure Sound (l : Layered) (low tree : Entries) (R L : List Address) : Prop where
  base : Holds l.store l.base (.record low) R L
  merged : ∃ R₂ L₂, Holds l.store l.merged (.record tree) R₂ L₂ ∧
    (∀ a, R₂.count a + L₂.count a ≤ 1) ∧ ∀ a ∈ R ++ L, a ∉ R₂

/-- **Laying one tree over another** in a store. -/
theorem sound_layered (low high : Entries) :
    ∃ R L, (layered low high).Sound low (merge low high) R L := by
  obtain ⟨base, s₁, R, L, hbase, hgrows, hlow, hcount⟩ := exists_run_load (.record low) .empty
  obtain ⟨upper, s₂, R', L', hupper, hgrows', hhigh, hcount'⟩ := exists_run_load (.record high) s₁
  obtain ⟨merged, s₃, R₂, L₂, hmerge, hgrows'', hmerged, hcount''⟩ :=
    exists_run_merge (hlow.grow hgrows') hhigh
  have hlayered : layered low high = ⟨s₃, base, upper, merged⟩ := by
    rw [layered]
    simp only [hbase, hupper, hmerge]
  -- the records of the lower tree, those of the upper one and those of the merge are new in turn
  have hnew (a : Nat) : fresh .empty s₁ a + (fresh s₁ s₂ a + fresh s₂ s₃ a) ≤ 1 := by
    rw [fresh_add hgrows'.length_le hgrows''.length_le,
      fresh_add hgrows.length_le (hgrows'.trans hgrows'').length_le]
    exact fresh_le_one _ _ a
  rw [hlayered]
  refine ⟨R, L, (hlow.grow hgrows').grow hgrows'', R₂, L₂, hmerged, fun a => ?_,
    fun a ha hused => ?_⟩
  · grind
  · have hpos := List.count_pos_iff.2 ha
    have hpos' := List.count_pos_iff.2 hused
    grind

namespace Sound

/-- **A value that is set in the merged tree**, without a change of the lower one. -/
theorem set (h : l.Sound low tree R L) (hset : SetAt tree path v tree') :
    (l.set path v).2.Sound low tree' R L := by
  obtain ⟨hbase, R₂, L₂, hmerged, hone, hapart⟩ := h
  obtain ⟨slot, s₁, R', L', hload, hgrows, hslot, hnew⟩ := exists_run_load v l.store
  have hthere (a : Nat) (hused : 0 < R₂.count a + L₂.count a) : a < l.store.records.length :=
    hmerged.lt_length a (List.count_pos_iff.1 (by rw [List.count_append]; exact hused))
  obtain ⟨s₂, hrun, hlength, hothers, R₃, L₃, hafter, hcount⟩ :=
    exists_run_setAt hset (hmerged.grow hgrows) hslot fun a => by
      have hboth := add_le_one_of_fresh (hone a) (hthere a) (hnew a)
      omega
  have hsame : (l.set path v).2 = { l with store := s₂ } := by
    rw [Layered.set]
    simp only [hload, hrun]
  have hfresh (a : Nat) := fresh_add hgrows.length_le hlength a
  rw [hsame]
  refine ⟨hbase.frame fun a ha => ?_, R₃, L₃, hafter, fun a => ?_, fun a ha => ?_⟩
  · have hlt := hbase.lt_length a ha
    exact (hothers a (Nat.lt_of_lt_of_le hlt hgrows.length_le) (hapart a ha)).trans
      (hgrows.getElem? hlt)
  · have hadded : R'.count a + L'.count a + fresh s₁ s₂ a ≤ fresh l.store s₂ a := by
      have := hnew a
      have := hfresh a
      omega
    have hboth := add_le_one_of_fresh (hone a) (hthere a) hadded
    have := hcount a
    omega
  · have hlt := hbase.lt_length a ha
    have hadded : R'.count a ≤ 0 + fresh l.store s₁ a := by
      have := hnew a
      omega
    have hunused : a ∉ R' := notMem_of_count_le hadded hlt rfl
    refine notMem_of_count_le (hcount a).1 (Nat.lt_of_lt_of_le hlt hgrows.length_le) ?_
    rw [List.count_eq_zero.2 (hapart a ha), List.count_eq_zero.2 hunused]

/-- Values that are set in the merged tree one after the other. -/
theorem setAll (h : l.Sound low tree R L) (hset : SetAll tree changes tree') :
    (l.setAll changes).Sound low tree' R L := by
  induction hset generalizing l with
  | nil => exact h
  | cons hfirst _ ih => exact ih (h.set hfirst)

/-- No path leads from the merged tree to a record of the lower one. -/
lemma clear (h : l.Sound low tree R L) : l.store.Clear (· ∈ R ++ L) l.merged := by
  obtain ⟨-, R₂, L₂, hmerged, -, hapart⟩ := h
  exact hmerged.clear hapart

/-- **Edits of the merged tree** leave the lower one as it is. -/
theorem read_of_edits {s' : Store} (h : l.Sound low tree R L)
    (hedits : Edits l.merged (· ∈ R ++ L) l.store s') : s'.read l.base = .record low :=
  (h.base.frame (hedits.spares h.clear h.base.lt_length).same).read_eq

end Sound

end Layered

/-- The trees behind loaded settings: the record of the file, laid over the defaults, with the
changes of the variables. -/
def loadedTrees (file : FileContent) (env : Environment) : Layered :=
  (layered defaults (file.record?.getD [])).setAll (changes env)

/-- The trees behind loaded settings hold the defaults and the tree that was loaded. -/
theorem exists_sound_loadedTrees {file : FileContent} {env : Environment} {c : Config}
    (h : load file env = .ok c) : ∃ R L, (loadedTrees file env).Sound defaults c.tree R L := by
  obtain ⟨-, hset, -⟩ := of_load h
  obtain ⟨R, L, hsound⟩ := Layered.sound_layered defaults (file.record?.getD [])
  have hlayer : merge defaults (file.record?.getD []) = file.layer := by
    unfold FileContent.layer
    cases file.record? <;> rfl
  rw [hlayer] at hsound
  exact ⟨R, L, hsound.setAll hset⟩

namespace Store

/-- **Merging keeps the lower tree.** When two trees of a store are merged, and no path leads from
the upper one to a record that the lower one uses, then whatever is set in the result afterwards,
and whether it can be set or not, the lower tree has at every depth the value that it had before the
merge, and its records are as they were. Only a value that itself leads to a record of the lower
tree gives this record away (`own_record_given_away`).

So the defaults are kept behind loaded settings, under every sequence of edits of these, among them
every sequence of values that are put into the store and set.

**Proof sketch.** A path leads from the result to records that are new or belong to the upper tree
(`exists_run_merge`), and edits of a tree spare the records that it does not lead to
(`Edits.spares`). -/
theorem merge_isolates :
    (∀ (s : Store) (base upper : Slot) (low high : Entries) (R L R' L' : List Address),
      Holds s base (.record low) R L → Holds s upper (.record high) R' L' →
      (∀ a ∈ R', a ∉ R ++ L) →
      ∃ merged s', (merge base upper).run s = (merged, s') ∧
        s'.read merged = .record (Config.merge low high) ∧
        ∀ s'', Edits merged (· ∈ R ++ L) s' s'' →
          s''.read base = .record low ∧ ∀ a ∈ R ++ L, s''.records[a]? = s.records[a]?) ∧
    ∀ (file : FileContent) (env : Environment) (c : Config), Config.load file env = .ok c →
      ∃ l R L, l = loadedTrees file env ∧ l.store.read l.merged = .record c.tree ∧
        Holds l.store l.base (.record defaults) R L ∧
        (∀ s', Edits l.merged (· ∈ R ++ L) l.store s' → s'.read l.base = .record defaults) ∧
        ∀ sets, (l.setAll sets).store.read l.base = .record defaults := by
  refine ⟨?_, fun file env c hload => ?_⟩
  · intro s base upper low high R L R' L' hbase hupper hapart
    obtain ⟨merged, s', R₂, L₂, hrun, hgrows, hmerged, hcount⟩ := exists_run_merge hbase hupper
    refine ⟨merged, s', hrun, hmerged.read_eq, fun s'' hedits => ?_⟩
    have hclear : s'.Clear (· ∈ R ++ L) merged := hmerged.clear fun a ha =>
      notMem_of_count_le (hcount a).1 (hbase.lt_length a ha)
        (List.count_eq_zero.2 fun hused => hapart a hused ha)
    have hspares := hedits.spares hclear (hbase.grow hgrows).lt_length
    have hsame (a : Nat) (ha : a ∈ R ++ L) : s''.records[a]? = s.records[a]? :=
      (hspares.same a ha).trans (hgrows.getElem? (hbase.lt_length a ha))
    exact ⟨(hbase.frame hsame).read_eq, hsame⟩
  · obtain ⟨R, L, hsound⟩ := exists_sound_loadedTrees hload
    obtain ⟨R₂, L₂, hmerged, -⟩ := hsound.merged
    exact ⟨_, R, L, rfl, hmerged.read_eq, hsound.base, fun s' => hsound.read_of_edits,
      fun sets => hsound.read_of_edits
        (Layered.edits_setAll hsound.clear hsound.base.lt_length sets)⟩

/-- A record of the lower tree is copied: setting a value in the copy leaves the record, and so does
setting one behind a number, which is refused. The namespace of the service is set, and its default
stays. -/
theorem merge_isolates_nested :
    (∃ (s s' s₁ s₂ : Store) (merged : Slot) (f : Fault),
      s.read (.ref 1) = .record [(.text "a", .record [(.text "x", .int 1)])] ∧
      (merge (.ref 1) (.ref 2)).run s = (merged, s') ∧
      (setAt merged (pathOf "a.x") (.leaf .null)).run s' = (.ok (), s₁) ∧
      s₁.getAt merged (pathOf "a.x") (.int 0) = .null ∧
      (setAt merged (pathOf "b.y") (.leaf .null)).run s₁ = (.error f, s₂) ∧
      s₂.read (.ref 1) = s.read (.ref 1)) ∧
    ∃ c, Config.load .absent [("LOG_LEVEL", "DEBUG")] = .ok c ∧
      ∃ l, l = loadedTrees .absent [("LOG_LEVEL", "DEBUG")] ∧
        (l.setAll [(pathOf "servicenow.namespace", .text "changed")]).store.read l.base =
          .record defaults := by
  have hnumber (n : Int) : ¬ (Value.int n).IsRecord := fun ⟨_, h⟩ => nomatch h
  have hleaf (s : Store) (n : Int) : Holds s (.leaf (.int n)) (.int n) [] [] :=
    .leaf (hnumber n) fun items h => nomatch h
  constructor
  · let s : Store := ⟨[[(.text "x", .leaf (.int 1))], [(.text "a", .ref 0)],
      [(.text "b", .leaf (.int 2))]]⟩
    have hlow : Holds s (.ref 1) (.record [(.text "a", .record [(.text "x", .int 1)])]) _ _ :=
      .record rfl (.cons (.record rfl (.cons (hleaf s 1) .nil)) .nil)
    have hhigh : Holds s (.ref 2) (.record [(.text "b", .int 2)]) _ _ :=
      .record rfl (.cons (hleaf s 2) .nil)
    obtain ⟨merged, s', hrun, -, hkept⟩ :=
      merge_isolates.1 s _ _ _ _ _ _ _ _ hlow hhigh (by decide)
    cases hrun
    have hclear (kept : Address → Prop) (s : Store) : s.Clear kept (.leaf .null) :=
      fun a _ hleads => nomatch hleads
    have hedits (root : Slot) (kept : Address → Prop) (s : Store) :
        Edits root kept s ((setAt root (pathOf "b.y") (.leaf .null)).run
          ((setAt root (pathOf "a.x") (.leaf .null)).run s).2).2 :=
      ((Edits.refl s).set _ _ (hclear _ _)).set _ _ (hclear _ _)
    exact ⟨s, _, _, _, _, _, hlow.read_eq, rfl, rfl, rfl, rfl,
      (hkept _ (hedits _ _ _)).1.trans hlow.read_eq.symm⟩
  · obtain ⟨c, hload⟩ := (exists_load_iff .absent [("LOG_LEVEL", "DEBUG")]).2
      ⟨trivial, fun s _ entries v hrecord => nomatch hrecord⟩
    obtain ⟨l, R, L, hl, -, -, -, hsets⟩ := merge_isolates.2 .absent _ c hload
    exact ⟨c, hload, l, hl, hsets _⟩

/-- A record of the lower tree that is itself set in the result is given away: what is set behind it
then is set in the lower tree. An empty tree is laid over one with the number 1 under `a.x`, with
which it shares no record. The record under `a` of the lower tree is set in the result under `k`,
and the number 2 is set under `k.x`: then the lower tree has the number 2 under `a.x`. -/
theorem own_record_given_away :
    let s : Store := ⟨[[(.text "x", .leaf (.int 1))], [(.text "a", .ref 0)], []]⟩
    let low (n : Int) : Value := .record [(.text "a", .record [(.text "x", .int n)])]
    Holds s (.ref 1) (low 1) [1, 0] [] ∧ Holds s (.ref 2) (.record []) [2] [] ∧
      ∃ (merged own : Slot) (s' s₁ s₂ : Store),
        (merge (.ref 1) (.ref 2)).run s = (merged, s') ∧
        s'.follow (.ref 1) (pathOf "a") = .ok own ∧
        (setAt merged (pathOf "k") own).run s' = (.ok (), s₁) ∧
        (setAt merged (pathOf "k.x") (.leaf (.int 2))).run s₁ = (.ok (), s₂) ∧
        s'.read (.ref 1) = low 1 ∧ s₂.read (.ref 1) = low 2 ∧ low 2 ≠ low 1 := by
  intro s low
  have hnumber (n : Int) : ¬ (Value.int n).IsRecord := fun ⟨_, h⟩ => nomatch h
  have hlow {t : Store} {n : Int} (hinner : t.records[0]? = some [(.text "x", .leaf (.int n))])
      (houter : t.records[1]? = some [(.text "a", .ref 0)]) :
      Holds t (.ref 1) (low n) [1, 0] [] := by
    have hleaf : Holds t (.leaf (.int n)) (.int n) [] [] :=
      .leaf (hnumber n) fun items h => nomatch h
    exact .record houter (.cons (.record hinner (.cons hleaf .nil)) .nil)
  refine ⟨hlow rfl rfl, .record rfl .nil, _, _, _, _, _, rfl, rfl, rfl, rfl,
    (hlow rfl rfl).read_eq, (hlow rfl rfl).read_eq, ?_⟩
  simp [low]

end Store

end TableClient.Config
