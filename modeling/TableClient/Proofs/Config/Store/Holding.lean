import Mathlib.Data.List.Perm.Subperm
import TableClient.Config.Store
import TableClient.Proofs.Config.Tree

set_option relaxedAutoImplicit false
set_option autoImplicit false

/-!
# Values held in a store

A slot of a store holds a value when the value can be read off it, record by record. This is said
along with the records that are used: those that a path can lead to, through records only, and those
that lie in lists, where no path leads. A value that is held stays held as long as none of these
records is changed, and the slot holds no other one.

A record that is held does not contain itself, so records that are held lie within each other no
deeper than there are records in the store. This is why reading a slot gives the value that it
holds.

## Main definitions

* `TableClient.Config.Store.Holds` — the slots that hold a value, with the records that are used.
* `TableClient.Config.Store.Grows` — a store with records added.
* `TableClient.Value.NestedWithin` — values whose records lie within each other down to a depth.

## Main results

* `TableClient.Config.Store.Holds.frame`, `TableClient.Config.Store.Holds.grow` — what is held stays
  held when its records stay.
* `TableClient.Config.Store.Holds.unique` — a slot holds at most one value.
* `TableClient.Config.Store.Holds.nestedWithin` — how deep records lie within each other.
* `TableClient.Config.Store.Holds.read_eq` — reading gives the value that is held.
-/

namespace TableClient

/-- A value whose records lie within each other no deeper than given. -/
inductive Value.NestedWithin : Nat → Value → Prop where
  | record {depth : Nat} {entries : Entries} :
    (∀ e ∈ entries, NestedWithin depth e.2) → NestedWithin (depth + 1) (.record entries)
  | list {depth : Nat} {items : List Value} :
    (∀ v ∈ items, NestedWithin depth v) → NestedWithin depth (.list items)
  /-- A value that is neither a record nor a list contains no record that is gone into. -/
  | other {depth : Nat} {v : Value} :
    ¬ v.IsRecord → (∀ items, v ≠ .list items) → NestedWithin depth v

namespace Config.Store

mutual

/-- A slot of a store holds a value. The first list has the records that a path can lead to, and the
second one those that lie in lists. -/
inductive Holds (s : Store) : Slot → Value → List Address → List Address → Prop where
  | leaf {v : Value} : ¬ v.IsRecord → (∀ items, v ≠ .list items) → Holds s (.leaf v) v [] []
  | list {items : List Slot} {vs : List Value} {F : List Address} :
    HoldsItems s items vs F → Holds s (.list items) (.list vs) [] F
  | record {a : Address} {slots : Slots} {entries : Entries} {R L : List Address} :
    s.records[a]? = some slots → HoldsEntries s slots entries R L →
    Holds s (.ref a) (.record entries) (a :: R) L

/-- The entries of a record hold values, under the same keys. -/
inductive HoldsEntries (s : Store) : Slots → Entries → List Address → List Address → Prop where
  | nil : HoldsEntries s [] [] [] []
  | cons {key : Value} {slot : Slot} {v : Value} {slots : Slots} {entries : Entries}
      {R L R' L' : List Address} :
    Holds s slot v R L → HoldsEntries s slots entries R' L' →
    HoldsEntries s ((key, slot) :: slots) ((key, v) :: entries) (R ++ R') (L ++ L')

/-- The items of a list hold values, with all the records that are used. -/
inductive HoldsItems (s : Store) : List Slot → List Value → List Address → Prop where
  | nil : HoldsItems s [] [] []
  | cons {slot : Slot} {v : Value} {items : List Slot} {vs : List Value} {R L F : List Address} :
    Holds s slot v R L → HoldsItems s items vs F →
    HoldsItems s (slot :: items) (v :: vs) (R ++ L ++ F)

end

variable {s s' s'' : Store}

/-! ### What is held stays held -/

mutual

/-- **A value stays held** as long as the records stay that are used. -/
theorem Holds.frame {slot : Slot} {v : Value} {R L : List Address} (h : Holds s slot v R L)
    (hsame : ∀ a ∈ R ++ L, s'.records[a]? = s.records[a]?) : Holds s' slot v R L := by
  cases h with
  | leaf hrecord hlist => exact .leaf hrecord hlist
  | list hitems => exact .list (HoldsItems.frame hitems hsame)
  | record ha hentries =>
    obtain ⟨hself, hrest⟩ := List.forall_mem_cons.1 hsame
    exact .record (hself.trans ha) (HoldsEntries.frame hentries hrest)

/-- Entries stay held as long as the records stay that are used. -/
theorem HoldsEntries.frame {slots : Slots} {entries : Entries} {R L : List Address}
    (h : HoldsEntries s slots entries R L) (hsame : ∀ a ∈ R ++ L, s'.records[a]? = s.records[a]?) :
    HoldsEntries s' slots entries R L := by
  cases h with
  | nil => exact .nil
  | cons hfirst hrest =>
    exact .cons (Holds.frame hfirst fun a ha => hsame a (by grind))
      (HoldsEntries.frame hrest fun a ha => hsame a (by grind))

/-- Items stay held as long as the records stay that are used. -/
theorem HoldsItems.frame {items : List Slot} {vs : List Value} {F : List Address}
    (h : HoldsItems s items vs F) (hsame : ∀ a ∈ F, s'.records[a]? = s.records[a]?) :
    HoldsItems s' items vs F := by
  cases h with
  | nil => exact .nil
  | cons hfirst hrest =>
    exact .cons (Holds.frame hfirst fun a ha => hsame a (by grind))
      (HoldsItems.frame hrest fun a ha => hsame a (by grind))

end

mutual

/-- The records that are used are records of the store. -/
theorem Holds.lt_length {slot : Slot} {v : Value} {R L : List Address}
    (h : Holds s slot v R L) : ∀ a ∈ R ++ L, a < s.records.length := by
  cases h with
  | leaf => exact List.forall_mem_nil _
  | list hitems => exact HoldsItems.lt_length hitems
  | record ha hentries =>
    exact List.forall_mem_cons.2
      ⟨(List.getElem?_eq_some_iff.1 ha).1, HoldsEntries.lt_length hentries⟩

/-- The records that are used by entries are records of the store. -/
theorem HoldsEntries.lt_length {slots : Slots} {entries : Entries} {R L : List Address}
    (h : HoldsEntries s slots entries R L) : ∀ a ∈ R ++ L, a < s.records.length := by
  cases h with
  | nil => exact List.forall_mem_nil _
  | cons hfirst hrest =>
    have h₁ := Holds.lt_length hfirst
    have h₂ := HoldsEntries.lt_length hrest
    grind

/-- The records that are used by items are records of the store. -/
theorem HoldsItems.lt_length {items : List Slot} {vs : List Value} {F : List Address}
    (h : HoldsItems s items vs F) : ∀ a ∈ F, a < s.records.length := by
  cases h with
  | nil => exact List.forall_mem_nil _
  | cons hfirst hrest =>
    have h₁ := Holds.lt_length hfirst
    have h₂ := HoldsItems.lt_length hrest
    grind

end

/-! ### Stores with records added -/

/-- A store has the records of another one, at their addresses, and maybe others behind them. -/
def Grows (s s' : Store) : Prop := s.records <+: s'.records

namespace Grows

/-- A store has its own records. -/
lemma refl (s : Store) : s.Grows s := List.prefix_refl _

/-- Records can be added one after the other. -/
lemma trans (h : s.Grows s') (h' : s'.Grows s'') : s.Grows s'' := List.IsPrefix.trans h h'

/-- There are no fewer records than before. -/
lemma length_le (h : s.Grows s') : s.records.length ≤ s'.records.length :=
  List.IsPrefix.length_le h

/-- The records are as before. -/
lemma getElem? {a : Address} (h : s.Grows s') (ha : a < s.records.length) :
    s'.records[a]? = s.records[a]? := by
  obtain ⟨added, hadded⟩ := h
  rw [← hadded, List.getElem?_append_left ha]

end Grows

/-- A value stays held when records are added. -/
lemma Holds.grow {slot : Slot} {v : Value} {R L : List Address} (h : Holds s slot v R L)
    (hgrows : s.Grows s') : Holds s' slot v R L :=
  h.frame fun a ha => hgrows.getElem? (h.lt_length a ha)

/-- Entries stay held when records are added. -/
lemma HoldsEntries.grow {slots : Slots} {entries : Entries} {R L : List Address}
    (h : HoldsEntries s slots entries R L) (hgrows : s.Grows s') :
    HoldsEntries s' slots entries R L :=
  h.frame fun a ha => hgrows.getElem? (h.lt_length a ha)

/-- Only a record of the store holds a record. -/
lemma Holds.exists_ref {slot : Slot} {entries : Entries} {R L : List Address}
    (h : Holds s slot (.record entries) R L) : ∃ a, slot = .ref a := by
  cases h with
  | record => exact ⟨_, rfl⟩
  | leaf hrecord => exact absurd ⟨entries, rfl⟩ hrecord

/-! ### One value -/

mutual

/-- **A slot holds at most one value.** -/
theorem Holds.unique {slot : Slot} {v w : Value} {R L R' L' : List Address}
    (h : Holds s slot v R L) (h' : Holds s slot w R' L') : v = w := by
  cases h with
  | leaf =>
    cases h'
    rfl
  | list hitems =>
    cases h' with
    | list hitems' => exact congrArg Value.list (HoldsItems.unique hitems hitems')
  | record ha hentries =>
    cases h' with
    | record ha' hentries' =>
      obtain rfl := Option.some.inj (ha.symm.trans ha')
      exact congrArg Value.record (HoldsEntries.unique hentries hentries')

/-- The entries of a record hold at most one value each. -/
theorem HoldsEntries.unique {slots : Slots} {entries : Entries} {R L R' L' : List Address}
    {entries' : Entries}
    (h : HoldsEntries s slots entries R L)
    (h' : HoldsEntries s slots entries' R' L') : entries = entries' := by
  cases h with
  | nil =>
    cases h'
    rfl
  | cons hfirst hrest =>
    cases h' with
    | cons hfirst' hrest' =>
      rw [Holds.unique hfirst hfirst', HoldsEntries.unique hrest hrest']

/-- The items of a list hold at most one value each. -/
theorem HoldsItems.unique {items : List Slot} {vs : List Value} {F F' : List Address}
    {vs' : List Value}
    (h : HoldsItems s items vs F)
    (h' : HoldsItems s items vs' F') : vs = vs' := by
  cases h with
  | nil =>
    cases h'
    rfl
  | cons hfirst hrest =>
    cases h' with
    | cons hfirst' hrest' => rw [Holds.unique hfirst hfirst', HoldsItems.unique hrest hrest']

end

/-! ### How deep records lie within each other -/

/-- The addresses of records that are different are no more than there are records. -/
lemma length_le_of_nodup {above : List Address} (hnodup : above.Nodup)
    (hlt : ∀ a ∈ above, a < s.records.length) : above.length ≤ s.records.length := by
  have hsub : above ⊆ List.range s.records.length := fun a ha => List.mem_range.2 (hlt a ha)
  simpa using (List.subperm_of_subset hnodup hsub).length_le

/-- Records that hold values which contain a value of the given size. They are different from each
other. -/
structure Above (s : Store) (size : Nat) (above : List Address) : Prop where
  nodup : above.Nodup
  larger : ∀ a ∈ above, ∃ w R L, Holds s (.ref a) w R L ∧ size < sizeOf w

namespace Above

variable {size size' : Nat} {above : List Address}

/-- They contain smaller values as well. -/
lemma mono (h : Above s size above) (hle : size' ≤ size) : Above s size' above :=
  ⟨h.nodup, fun a ha => by
    obtain ⟨w, R, L, hw, hsize⟩ := h.larger a ha
    exact ⟨w, R, L, hw, Nat.lt_of_le_of_lt hle hsize⟩⟩

/-- A record that is held is not among those that contain it, and so it can be added to them. -/
lemma cons {a : Address} {v : Value} {R L : List Address} (h : Above s (sizeOf v) above)
    (hv : Holds s (.ref a) v R L) (hsize : size < sizeOf v) :
    Above s size (a :: above) := by
  have hothers := (h.mono (Nat.le_of_lt hsize)).larger
  refine ⟨List.nodup_cons.2 ⟨fun ha => ?_, h.nodup⟩, ?_⟩
  · obtain ⟨w, R', L', hw, hlarger⟩ := h.larger a ha
    rw [hv.unique hw] at hlarger
    exact Nat.lt_irrefl _ hlarger
  · exact List.forall_mem_cons.2 ⟨⟨v, R, L, hv, hsize⟩, hothers⟩

/-- They are no more than there are records. -/
lemma length_le (h : Above s size above) : above.length ≤ s.records.length := by
  refine length_le_of_nodup h.nodup fun a ha => ?_
  obtain ⟨w, R, L, hw, -⟩ := h.larger a ha
  cases hw with
  | record hfound => exact (List.getElem?_eq_some_iff.1 hfound).1

end Above

mutual

/-- A value lies no deeper than there are records besides those that contain it. -/
theorem Holds.nestedWithin_of_above {slot : Slot} {v : Value} {R L : List Address}
    {above : List Address} {depth : Nat}
    (h : Holds s slot v R L)
    (habove : Above s (sizeOf v) above) (hdepth : s.records.length ≤ above.length + depth) :
    v.NestedWithin depth := by
  cases h with
  | leaf hrecord hlist => exact .other hrecord hlist
  | list hitems =>
    exact .list (HoldsItems.nestedWithin_of_above hitems (habove.mono (by simp)) hdepth)
  | @record a slots entries R L ha hentries =>
    have hinside : Above s (sizeOf entries) (a :: above) :=
      habove.cons (.record ha hentries) (by simp)
    have hlength := hinside.length_le
    rw [List.length_cons] at hlength
    obtain ⟨depth, rfl⟩ : ∃ depth', depth = depth' + 1 := ⟨depth - 1, by omega⟩
    refine .record (HoldsEntries.nestedWithin_of_above hentries hinside ?_)
    rw [List.length_cons]
    omega

/-- The values of entries lie no deeper than there are records besides those that contain them. -/
theorem HoldsEntries.nestedWithin_of_above {slots : Slots} {entries : Entries}
    {R L above : List Address} {depth : Nat} (h : HoldsEntries s slots entries R L)
    (habove : Above s (sizeOf entries) above)
    (hdepth : s.records.length ≤ above.length + depth) : ∀ e ∈ entries, e.2.NestedWithin depth := by
  cases h with
  | nil => exact List.forall_mem_nil _
  | cons hfirst hrest =>
    refine List.forall_mem_cons.2 ⟨?_, ?_⟩
    · exact Holds.nestedWithin_of_above hfirst (habove.mono (by simp; omega)) hdepth
    · exact HoldsEntries.nestedWithin_of_above hrest (habove.mono (by simp)) hdepth

/-- Items lie no deeper than there are records besides those that contain them. -/
theorem HoldsItems.nestedWithin_of_above {items : List Slot} {vs : List Value}
    {F above : List Address} {depth : Nat} (h : HoldsItems s items vs F)
    (habove : Above s (sizeOf vs) above)
    (hdepth : s.records.length ≤ above.length + depth) : ∀ v ∈ vs, v.NestedWithin depth := by
  cases h with
  | nil => exact List.forall_mem_nil _
  | cons hfirst hrest =>
    refine List.forall_mem_cons.2 ⟨?_, ?_⟩
    · exact Holds.nestedWithin_of_above hfirst (habove.mono (by simp; omega)) hdepth
    · exact HoldsItems.nestedWithin_of_above hrest (habove.mono (by simp)) hdepth

end

/-- **The records of a value that is held** lie within each other no deeper than there are
records. -/
theorem Holds.nestedWithin {slot : Slot} {v : Value} {R L : List Address} (h : Holds s slot v R L) :
    v.NestedWithin s.records.length :=
  h.nestedWithin_of_above ⟨List.nodup_nil, List.forall_mem_nil _⟩ (Nat.le_add_left _ _)

/-! ### Reading -/

mutual

/-- The value of a slot is the one that it holds, if records are read deep enough. -/
theorem Holds.valueOf_eq {slot : Slot} {v : Value} {R L : List Address} {depth : Nat}
    (h : Holds s slot v R L) (hdepth : v.NestedWithin depth) :
    valueOf (s.recordTo depth) slot = v := by
  cases h with
  | leaf => rfl
  | list hitems =>
    cases hdepth with
    | list hdepth => rw [valueOf, HoldsItems.valuesOf_eq hitems hdepth]
    | other _ hlist => exact absurd rfl (hlist _)
  | record ha hentries =>
    cases hdepth with
    | record hdepth =>
      rw [valueOf, recordTo, List.getD_eq_getElem?_getD, ha]
      exact congrArg Value.record (HoldsEntries.map_eq hentries hdepth)
    | other hrecord _ => exact absurd ⟨_, rfl⟩ hrecord

/-- The values of entries are those that they hold, if records are read deep enough. -/
theorem HoldsEntries.map_eq {slots : Slots} {entries : Entries} {R L : List Address} {depth : Nat}
    (h : HoldsEntries s slots entries R L)
    (hdepth : ∀ e ∈ entries, e.2.NestedWithin depth) :
    (slots.map fun (key, slot) => (key, valueOf (s.recordTo depth) slot)) = entries := by
  cases h with
  | nil => rfl
  | cons hfirst hrest =>
    obtain ⟨hv, hvs⟩ := List.forall_mem_cons.1 hdepth
    exact congrArg₂ List.cons (Prod.ext rfl (Holds.valueOf_eq hfirst hv))
      (HoldsEntries.map_eq hrest hvs)

/-- The values of items are those that they hold, if records are read deep enough. -/
theorem HoldsItems.valuesOf_eq {items : List Slot} {vs : List Value} {F : List Address}
    {depth : Nat}
    (h : HoldsItems s items vs F)
    (hdepth : ∀ v ∈ vs, v.NestedWithin depth) : valuesOf (s.recordTo depth) items = vs := by
  cases h with
  | nil => rfl
  | cons hfirst hrest =>
    obtain ⟨hv, hvs⟩ := List.forall_mem_cons.1 hdepth
    rw [valuesOf, Holds.valueOf_eq hfirst hv, HoldsItems.valuesOf_eq hrest hvs]

end

/-- **Reading a slot gives the value that it holds.** -/
theorem Holds.read_eq {slot : Slot} {v : Value} {R L : List Address} (h : Holds s slot v R L) :
    s.read slot = v :=
  h.valueOf_eq h.nestedWithin

end Config.Store

end TableClient
