import TableClient.Proofs.Config.Store.Setting

set_option relaxedAutoImplicit false
set_option autoImplicit false

/-!
# Merging in a store

Merging two records of a store, which copies the lower one and goes into the copies again and again,
gives a record that holds the upper value laid over the lower one. No record that was there is
changed. The records that a path can lead to in the result are new, or a path could lead to them in
the upper value; those of the lower value are only used where they lie in lists.

## Main definitions

* `TableClient.Config.Store.MergesWithin` — a way of merging that is right for records which lie
  within each other down to a depth.

## Main results

* `TableClient.Config.Store.exists_run_copySlot`, `TableClient.Config.Store.exists_run_laySlot` —
  one entry that is copied, and one that is laid over others.
* `TableClient.Config.Store.mergesWithin_mergeTo` — merging down to a depth.
* `TableClient.Config.Store.exists_run_merge` — merging.
-/

namespace TableClient

namespace Value.NestedWithin

variable {depth : Nat} {entries : Entries} {v : Value}

/-- The values of a record lie less deep than the record. -/
lemma of_mem (h : NestedWithin (depth + 1) (.record entries)) :
    ∀ e ∈ entries, NestedWithin depth e.2 := by
  cases h with
  | record h => exact h
  | other hrecord _ => exact absurd ⟨entries, rfl⟩ hrecord

/-- A record lies within a depth of at least one. -/
lemma exists_depth (h : NestedWithin depth (.record entries)) : ∃ inner, depth = inner + 1 := by
  cases h with
  | record => exact ⟨_, rfl⟩
  | other hrecord _ => exact absurd ⟨entries, rfl⟩ hrecord

/-- A record in which an entry is set lies as deep as both. -/
lemma insert (h : NestedWithin (depth + 1) (.record entries)) (key : Value)
    (hv : NestedWithin depth v) : NestedWithin (depth + 1) (.record (entries.insert key v)) := by
  refine .record fun e he => ?_
  rcases Keyed.mem_insert he with hvalue | hmem
  · rw [hvalue]
    exact hv
  · exact h.of_mem e hmem

/-- **A value that is laid over another one** lies as deep as both. -/
theorem overlay (h : NestedWithin depth v) :
    ∀ low : Option Value, (∀ u, low = some u → NestedWithin depth u) →
      NestedWithin depth (Config.overlay v low) := by
  induction h with
  | @record depth upper hvalues ih =>
    intro low hlow
    by_cases hrecord : ∃ base, low = some (.record base)
    · obtain ⟨base, rfl⟩ := hrecord
      have hbase : NestedWithin (depth + 1) (.record base) := hlow _ rfl
      have hmerged : ∀ (rest base : Entries), (∀ e ∈ rest, e ∈ upper) →
          NestedWithin (depth + 1) (.record base) →
          NestedWithin (depth + 1) (.record (Config.mergeInto base rest)) := by
        intro rest
        induction rest with
        | nil => exact fun base _ hbase => hbase
        | cons e rest ih' =>
          intro base hrest hbase
          obtain ⟨hfirst, hrest⟩ := List.forall_mem_cons.1 hrest
          refine ih' _ hrest (hbase.insert e.1 (ih e hfirst _ fun u hu => ?_))
          obtain ⟨e', he', -, rfl⟩ := Keyed.exists_mem_of_get? hu
          exact hbase.of_mem e' he'
      exact hmerged upper base (fun e he => he) hbase
    · rw [Config.overlay_of_low_not_record fun base heq => hrecord ⟨base, heq⟩]
      exact .record hvalues
  | list hitems =>
    intro low _
    exact .list hitems
  | other hrecord hlist =>
    intro low _
    rw [Config.overlay_of_not_isRecord hrecord]
    exact .other hrecord hlist

end Value.NestedWithin

namespace Config.Store

variable {s s' : Store} {slot base upper : Slot} {v : Value} {slots lower higher : Slots}
  {entries low high : Entries} {R L R' L' : List Address} {depth : Nat}
  {mergeInner : Slots → Slots → StateM Store Slot}

/-- A slot holds a record with entries that hold its values, or something else, to which no path
leads on. -/
lemma Holds.entries?_cases (h : Holds s slot v R L) :
    (∃ slots entries a R₁, s.entries? slot = some slots ∧ v = .record entries ∧ R = a :: R₁ ∧
      HoldsEntries s slots entries R₁ L) ∨
    (s.entries? slot = none ∧ ¬ v.IsRecord ∧ R = []) := by
  cases h with
  | leaf hrecord => exact .inr ⟨rfl, hrecord, rfl⟩
  | list => exact .inr ⟨rfl, (nomatch ·), rfl⟩
  | @record a slots entries R L hfound hentries =>
    exact .inl ⟨slots, entries, a, R, hfound, rfl, rfl, hentries⟩

/-- A way of merging entries that is right for records which lie within each other down to a depth:
the result is a slot that holds the upper entries laid over the lower ones, no record is changed,
and a path can only lead to records that are new or were used by the upper entries. -/
def MergesWithin (mergeInner : Slots → Slots → StateM Store Slot) (depth : Nat) : Prop :=
  ∀ {s : Store} {lower higher : Slots} {low high : Entries} {R L R' L' : List Address},
    HoldsEntries s lower low R L → HoldsEntries s higher high R' L' →
    Value.NestedWithin depth (.record low) → Value.NestedWithin depth (.record high) →
    ∃ slot s' R₂ L₂, (mergeInner lower higher).run s = (slot, s') ∧ s.Grows s' ∧
      Holds s' slot (.record (mergeInto low high)) R₂ L₂ ∧
      ∀ a, R₂.count a ≤ R'.count a + fresh s s' a ∧ L₂.count a ≤ L.count a + L'.count a

/-! ### Copying -/

/-- The store is asked for. -/
lemma run_getThe (s : Store) : (getThe Store : StateM Store Store).run s = (s, s) := rfl

/-- A record is copied by merging nothing into it. -/
lemma run_copySlot_of_record (h : s.entries? slot = some slots) :
    (copySlot mergeInner slot).run s = (mergeInner slots []).run s := by
  rw [copySlot, run_bind_of_run s.run_getThe, h]

/-- Other values are taken over. -/
lemma run_copySlot_of_none (h : s.entries? slot = none) :
    (copySlot mergeInner slot).run s = (slot, s) := by
  rw [copySlot, run_bind_of_run s.run_getThe, h]
  rfl

/-- **A copy of what a slot holds** holds it too, and a path only leads to records that are new. -/
theorem exists_run_copySlot (hmerge : MergesWithin mergeInner depth) (h : Holds s slot v R L)
    (hdepth : v.NestedWithin depth) :
    ∃ copy s' R₂ L₂, (copySlot mergeInner slot).run s = (copy, s') ∧ s.Grows s' ∧
      Holds s' copy v R₂ L₂ ∧ ∀ a, R₂.count a ≤ fresh s s' a ∧ L₂.count a ≤ L.count a := by
  rcases h.entries?_cases with
    ⟨slots, entries, a, R₁, hentries, rfl, rfl, hheld⟩ | ⟨hnone, -, rfl⟩
  · obtain ⟨inner, rfl⟩ := hdepth.exists_depth
    rw [run_copySlot_of_record hentries]
    obtain ⟨copy, s', R₂, L₂, hmerged, hgrows, hcopy, hcount⟩ :=
      hmerge hheld .nil hdepth (.record (List.forall_mem_nil _))
    exact ⟨copy, s', R₂, L₂, hmerged, hgrows, hcopy, by simpa using hcount⟩
  · exact ⟨slot, s, [], L, run_copySlot_of_none hnone, .refl s, h, by simp⟩

/-- A copy of entries holds what they hold, and a path only leads to records that are new. -/
theorem exists_run_copyEntries (hmerge : MergesWithin mergeInner depth)
    (h : HoldsEntries s slots entries R L) (hdepth : ∀ e ∈ entries, e.2.NestedWithin depth) :
    ∃ copy s' R₂ L₂, (copyEntries mergeInner slots).run s = (copy, s') ∧ s.Grows s' ∧
      HoldsEntries s' copy entries R₂ L₂ ∧
      ∀ a, R₂.count a ≤ fresh s s' a ∧ L₂.count a ≤ L.count a := by
  induction slots generalizing s entries R L with
  | nil =>
    cases h
    exact ⟨[], s, [], [], rfl, .refl s, .nil, by simp⟩
  | cons e slots ih =>
    cases h with
    | cons hfirst hrest =>
      obtain ⟨hv, hvs⟩ := List.forall_mem_cons.1 hdepth
      obtain ⟨copied, s₁, R₁, L₁, hrun, hgrows, hheld, hcount⟩ :=
        exists_run_copySlot hmerge hfirst hv
      obtain ⟨copy, s₂, R₂, L₂, hrun', hgrows', hheld', hcount'⟩ := ih (hrest.grow hgrows) hvs
      refine ⟨_, s₂, _, _, (run_bind_of_run hrun).trans (run_bind_of_run hrun'),
        hgrows.trans hgrows', .cons (hheld.grow hgrows') hheld', fun a => ?_⟩
      have hnew := fresh_add hgrows.length_le hgrows'.length_le a
      grind

/-! ### Laying entries over others -/

/-- A record that is laid over another one is merged with it. -/
lemma run_laySlot_of_records (hbase : s.entries? base = some lower)
    (hupper : s.entries? upper = some higher) :
    (laySlot mergeInner (some base) upper).run s = (mergeInner lower higher).run s := by
  rw [laySlot, run_bind_of_run s.run_getThe, Option.bind_some, hbase, hupper]

/-- Elsewhere the upper value is taken over. -/
lemma run_laySlot_of_none {below : Option Slot}
    (h : below.bind s.entries? = none ∨ s.entries? upper = none) :
    (laySlot mergeInner below upper).run s = (upper, s) := by
  rw [laySlot, run_bind_of_run s.run_getThe]
  rcases h with hbelow | hupper
  · rw [hbelow]
    rfl
  · rw [hupper]
    cases below.bind s.entries? <;> rfl

/-- **One entry laid over others**: the value is laid over what is found under its key. The result
uses what the entries and the value used, and new records.

**Proof sketch.** Where both are records, the one below is replaced by the merge, and with it goes
what only it used. Elsewhere the value is set. -/
theorem exists_run_laySlot (hmerge : MergesWithin mergeInner depth)
    (h : HoldsEntries s slots entries R L)
    (hdepth : Value.NestedWithin (depth + 1) (.record entries)) (key : Value)
    (hslot : Holds s slot v R' L') (hv : v.NestedWithin depth) :
    ∃ laid s' R₂ L₂, (laySlot mergeInner (Keyed.get? slots key) slot).run s = (laid, s') ∧
      s.Grows s' ∧
      HoldsEntries s' (Keyed.insert slots key laid)
        (entries.insert key (overlay v (entries.get? key))) R₂ L₂ ∧
      ∀ a, R₂.count a ≤ R.count a + R'.count a + fresh s s' a ∧
        L₂.count a ≤ L.count a + L'.count a := by
  -- where the value is taken over, the result is the record with this entry set
  have htaken (heq : overlay v (entries.get? key) = v) :
      ∃ R₂ L₂, HoldsEntries s (Keyed.insert slots key slot)
        (entries.insert key (overlay v (entries.get? key))) R₂ L₂ ∧
      ∀ a, R₂.count a ≤ R.count a + R'.count a + fresh s s a ∧
        L₂.count a ≤ L.count a + L'.count a := by
    obtain ⟨R₂, L₂, hset, hcount⟩ := h.insert key hslot
    rw [heq]
    exact ⟨R₂, L₂, hset, fun a => by have := hcount a; omega⟩
  rcases hslot.entries?_cases with
    ⟨higher, high, a, R₁, hhigher, rfl, rfl, hhigh⟩ | ⟨hnone, hrecord, rfl⟩
  · cases hfound : Keyed.get? slots key with
    | none =>
      have hnothing : entries.get? key = none := h.get?_eq_none_iff.1 hfound
      obtain ⟨R₂, L₂, hset, hcount⟩ := htaken (by rw [hnothing]; rfl)
      exact ⟨slot, s, R₂, L₂, run_laySlot_of_none (.inl rfl), .refl s, hset, hcount⟩
    | some old =>
      obtain ⟨u, R₃, L₃, hu, hold, hle, hreplace⟩ := h.focus hfound
      rcases hold.entries?_cases with
        ⟨lower, low, b, R₄, hlower, rfl, rfl, hlow⟩ | ⟨hlower, hother, rfl⟩
      · obtain ⟨e, he, -, hlowest⟩ := Keyed.exists_mem_of_get? hu
        have hinner : Value.NestedWithin depth (.record low) := hlowest ▸ hdepth.of_mem e he
        obtain ⟨laid, s', R₂, L₂, hmerged, hgrows, hlaid, hcount⟩ :=
          hmerge hlow hhigh hinner hv
        obtain ⟨R₅, L₅, hset, hcount'⟩ := hreplace hlaid fun c hc => hgrows.getElem?
          (h.lt_length c (List.count_pos_iff.1 (by rw [List.count_append]; omega)))
        rw [run_laySlot_of_records hlower hhigher]
        refine ⟨laid, s', R₅, L₅, hmerged, hgrows, ?_, fun c => ?_⟩
        · rw [show entries.get? key = some (.record low) from hu]
          exact hset
        · have hused := hcount c
          have hset := hcount' c
          grind
      · obtain ⟨R₂, L₂, hset, hcount⟩ := htaken (overlay_of_low_not_record fun low heq =>
          hother ⟨low, Option.some.inj (hu.symm.trans heq)⟩)
        exact ⟨slot, s, R₂, L₂, run_laySlot_of_none (.inl hlower), .refl s, hset, hcount⟩
  · obtain ⟨R₂, L₂, hset, hcount⟩ := htaken (overlay_of_not_isRecord hrecord)
    exact ⟨slot, s, R₂, L₂, run_laySlot_of_none (.inr hnone), .refl s, hset, hcount⟩

/-- Entries laid over others one after the other. -/
theorem exists_run_layEntries (hmerge : MergesWithin mergeInner depth)
    (hlow : HoldsEntries s lower low R L) (hhigh : HoldsEntries s higher high R' L')
    (hdepth : Value.NestedWithin (depth + 1) (.record low))
    (hdepth' : ∀ e ∈ high, e.2.NestedWithin depth) :
    ∃ laid s' R₂ L₂, (layEntries mergeInner lower higher).run s = (laid, s') ∧ s.Grows s' ∧
      HoldsEntries s' laid (mergeInto low high) R₂ L₂ ∧
      ∀ a, R₂.count a ≤ R.count a + R'.count a + fresh s s' a ∧
        L₂.count a ≤ L.count a + L'.count a := by
  induction higher generalizing s lower low high R L R' L' with
  | nil =>
    cases hhigh
    exact ⟨lower, s, R, L, rfl, .refl s, hlow, fun a => by simp⟩
  | cons e higher ih =>
    cases hhigh with
    | @cons key slot v _ high R₁ L₁ R₂ L₂ hfirst hrest =>
      obtain ⟨hv, hvs⟩ := List.forall_mem_cons.1 hdepth'
      obtain ⟨laid, s₁, R₃, L₃, hrun, hgrows, hlaid, hcount⟩ :=
        exists_run_laySlot hmerge hlow hdepth key hfirst hv
      have hinner : (overlay v (low.get? key)).NestedWithin depth := hv.overlay _ fun u hu => by
        obtain ⟨e, he, -, rfl⟩ := Keyed.exists_mem_of_get? hu
        exact hdepth.of_mem e he
      obtain ⟨all, s₂, R₄, L₄, hrun', hgrows', hall, hcount'⟩ :=
        ih hlaid (hrest.grow hgrows) (hdepth.insert key hinner) hvs
      refine ⟨all, s₂, R₄, L₄, (run_bind_of_run hrun).trans hrun', hgrows.trans hgrows', hall,
        fun a => ?_⟩
      have hnew := fresh_add hgrows.length_le hgrows'.length_le a
      grind

/-! ### Merging -/

/-- **Merging entries down to a depth** is right for records that lie within each other no deeper.

**Proof sketch.** Induction on the depth: the lower entries are copied, the upper ones laid over the
copies, and the result is a new record. -/
theorem mergesWithin_mergeTo (depth : Nat) : MergesWithin (mergeTo depth) depth := by
  induction depth with
  | zero =>
    intro s lower higher low high R L R' L' _ _ hdepth
    obtain ⟨inner, hinner⟩ := hdepth.exists_depth
    cases hinner
  | succ depth ih =>
    intro s lower higher low high R L R' L' hlow hhigh hdepth hdepth'
    obtain ⟨copy, s₁, R₁, L₁, hrun, hgrows, hcopy, hcount⟩ :=
      exists_run_copyEntries ih hlow hdepth.of_mem
    obtain ⟨laid, s₂, R₂, L₂, hrun', hgrows', hlaid, hcount'⟩ :=
      exists_run_layEntries ih hcopy (hhigh.grow hgrows) hdepth hdepth'.of_mem
    have hadded := s₂.grows_withRecord laid
    refine ⟨_, _, _, _, (run_bind_of_run hrun).trans ((run_bind_of_run hrun').trans
      (s₂.run_alloc laid)), (hgrows.trans hgrows').trans hadded, hlaid.withRecord, fun a => ?_⟩
    have hnew := fresh_add hgrows.length_le hgrows'.length_le a
    have hnew' := fresh_add (hgrows.trans hgrows').length_le hadded.length_le a
    rw [s₂.count_withRecord laid]
    grind

/-- **Merging two records of a store** gives a record that holds the upper value laid over the lower
one. No record is changed, and a path leads to records of the result that are new or were used by
the upper value. -/
theorem exists_run_merge (hbase : Holds s base (.record low) R L)
    (hupper : Holds s upper (.record high) R' L') :
    ∃ merged s' R₂ L₂, (merge base upper).run s = (merged, s') ∧ s.Grows s' ∧
      Holds s' merged (.record (Config.merge low high)) R₂ L₂ ∧
      ∀ a, R₂.count a ≤ R'.count a + fresh s s' a ∧ L₂.count a ≤ L.count a + L'.count a := by
  have hdepth := hbase.nestedWithin
  have hdepth' := hupper.nestedWithin
  cases hbase with
  | leaf hrecord => exact absurd ⟨low, rfl⟩ hrecord
  | @record a lower _ R L hlower hlow =>
    cases hupper with
    | leaf hrecord => exact absurd ⟨high, rfl⟩ hrecord
    | @record b higher _ R' L' hhigher hhigh =>
      have hrun : (merge (.ref a) (.ref b)).run s =
          (mergeTo s.records.length (s.records[a]?.getD []) (s.records[b]?.getD [])).run s := rfl
      obtain ⟨merged, s', R₂, L₂, hmerged, hgrows, hheld, hcount⟩ :=
        mergesWithin_mergeTo s.records.length hlow hhigh hdepth hdepth'
      refine ⟨merged, s', R₂, L₂, ?_, hgrows, hheld, fun c => by grind⟩
      rw [hrun, hlower, hhigher]
      exact hmerged

end Config.Store

end TableClient
