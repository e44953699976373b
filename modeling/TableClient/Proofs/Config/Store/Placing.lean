import Mathlib.Data.List.Nodup
import TableClient.Proofs.Computation
import TableClient.Proofs.Config.Store.Holding

set_option relaxedAutoImplicit false
set_option autoImplicit false

/-!
# Values put into a store

A value that is put into a store is held afterwards. The records that it uses are new, and each of
them is used once, so that no record is shared with what was there before.

## Main definitions

* `TableClient.Config.Store.fresh` — how often an address is new.
* `TableClient.Config.Store.HoldsApart` — values that are held without a record in common.

## Main results

* `TableClient.Config.Store.exists_run_load`, `TableClient.Config.Store.HoldsApart.load` — putting a
  value into a store.
-/

namespace TableClient.Config.Store

variable {s s' s'' : Store}

/-! ### New records -/

/-- How often an address is that of a record which was added: once or not at all. -/
def fresh (s s' : Store) (a : Nat) : Nat :=
  if s.records.length ≤ a ∧ a < s'.records.length then 1 else 0

/-- What was added first and what was added later is what was added. -/
lemma fresh_add (h : s.records.length ≤ s'.records.length)
    (h' : s'.records.length ≤ s''.records.length) (a : Nat) :
    fresh s s' a + fresh s' s'' a = fresh s s'' a := by
  unfold fresh
  split_ifs <;> omega

/-- A record that was there is not new. -/
lemma fresh_of_lt {a : Nat} (h : a < s.records.length) : fresh s s' a = 0 :=
  if_neg fun hnew => Nat.not_le_of_lt h hnew.1

/-- A record is new no more than once. -/
lemma fresh_le_one (s s' : Store) (a : Nat) : fresh s s' a ≤ 1 := by
  unfold fresh
  split_ifs <;> omega

/-- What is used once at most and was there, and what is new, are used once at most together. -/
lemma add_le_one_of_fresh {a old new : Nat} (hold : old ≤ 1)
    (hthere : 0 < old → a < s.records.length) (hnew : new ≤ fresh s s' a) : old + new ≤ 1 := by
  have hone := fresh_le_one s s' a
  by_cases hused : 0 < old
  · rw [fresh_of_lt (hthere hused)] at hnew
    omega
  · omega

/-- What uses new records, and otherwise no more than does not use a record that was there, does not
use it either. -/
lemma notMem_of_count_le {R : List Address} {a n : Nat} (hcount : R.count a ≤ n + fresh s s' a)
    (ha : a < s.records.length) (hn : n = 0) : a ∉ R := by
  rw [fresh_of_lt ha, hn] at hcount
  exact List.count_eq_zero.1 (Nat.le_zero.1 hcount)

/-- The store with a record added. -/
def withRecord (s : Store) (slots : Slots) : Store := ⟨s.records ++ [slots]⟩

/-- Adding a record. -/
lemma run_alloc (s : Store) (slots : Slots) :
    (alloc slots).run s = (.ref s.records.length, s.withRecord slots) := rfl

/-- There is one record more. -/
lemma length_withRecord (s : Store) (slots : Slots) :
    (s.withRecord slots).records.length = s.records.length + 1 := List.length_append

/-- The others are as before. -/
lemma grows_withRecord (s : Store) (slots : Slots) : s.Grows (s.withRecord slots) :=
  List.prefix_append _ _

/-- The record that was added is found. -/
lemma getElem?_withRecord (s : Store) (slots : Slots) :
    (s.withRecord slots).records[s.records.length]? = some slots := List.getElem?_concat_length

/-- It is the only new one. -/
lemma count_withRecord (s : Store) (slots : Slots) (R : List Address) (a : Nat) :
    (s.records.length :: R).count a = R.count a + fresh s (s.withRecord slots) a := by
  rw [List.count_cons, fresh, length_withRecord]
  simp only [beq_iff_eq]
  split_ifs <;> omega

/-- A record that is added holds what its entries hold, and uses itself. -/
lemma HoldsEntries.withRecord {slots : Slots} {entries : Entries} {R L : List Address}
    (h : HoldsEntries s slots entries R L) :
    Holds (s.withRecord slots) (.ref s.records.length) (.record entries)
      (s.records.length :: R) L :=
  .record (s.getElem?_withRecord slots) (h.grow (s.grows_withRecord slots))

/-! ### Putting values into a store -/

mutual

/-- **A value that is put into a store** is held, by new records each of which is used once. -/
theorem exists_run_load (v : Value) (s : Store) :
    ∃ slot s' R L, (load v).run s = (slot, s') ∧ s.Grows s' ∧ Holds s' slot v R L ∧
      ∀ a, R.count a + L.count a ≤ fresh s s' a := by
  cases v with
  | record entries =>
    obtain ⟨slots, s', R, L, hrun, hgrows, hholds, hcount⟩ := exists_run_loadEntries entries s
    have hadded := s'.grows_withRecord slots
    refine ⟨_, _, _, _, ?_, hgrows.trans hadded, hholds.withRecord, fun a => ?_⟩
    · rw [load]
      exact (run_bind_of_run hrun).trans (s'.run_alloc slots)
    · have hnew := fresh_add hgrows.length_le hadded.length_le a
      have hrest := hcount a
      rw [s'.count_withRecord slots]
      omega
  | list items =>
    obtain ⟨slots, s', F, hrun, hgrows, hholds, hcount⟩ := exists_run_loadItems items s
    refine ⟨.list slots, s', [], F, ?_, hgrows, .list hholds, fun a => ?_⟩
    · rw [load]
      exact run_bind_of_run hrun
    · simpa using hcount a
  | _ => exact ⟨_, s, [], [], rfl, .refl s, .leaf (by rintro ⟨_, h⟩; cases h) (by simp), by simp⟩

/-- The entries of a record that are put into a store. -/
theorem exists_run_loadEntries (entries : List (Value × Value)) (s : Store) :
    ∃ slots s' R L, (loadEntries entries).run s = (slots, s') ∧ s.Grows s' ∧
      HoldsEntries s' slots entries R L ∧ ∀ a, R.count a + L.count a ≤ fresh s s' a := by
  cases entries with
  | nil => exact ⟨[], s, [], [], rfl, .refl s, .nil, by simp⟩
  | cons e rest =>
    obtain ⟨key, v⟩ := e
    obtain ⟨slot, s₁, R, L, hrun, hgrows, hholds, hcount⟩ := exists_run_load v s
    obtain ⟨slots, s₂, R', L', hrun', hgrows', hholds', hcount'⟩ := exists_run_loadEntries rest s₁
    refine ⟨(key, slot) :: slots, s₂, _, _, ?_, hgrows.trans hgrows',
      .cons (hholds.grow hgrows') hholds', fun a => ?_⟩
    · rw [loadEntries]
      exact (run_bind_of_run hrun).trans (run_bind_of_run hrun')
    · have hnew := fresh_add hgrows.length_le hgrows'.length_le a
      have hfirst := hcount a
      have hrest := hcount' a
      rw [List.count_append, List.count_append]
      omega

/-- The items of a list that are put into a store. -/
theorem exists_run_loadItems (items : List Value) (s : Store) :
    ∃ slots s' F, (loadItems items).run s = (slots, s') ∧ s.Grows s' ∧
      HoldsItems s' slots items F ∧ ∀ a, F.count a ≤ fresh s s' a := by
  cases items with
  | nil => exact ⟨[], s, [], rfl, .refl s, .nil, by simp⟩
  | cons v rest =>
    obtain ⟨slot, s₁, R, L, hrun, hgrows, hholds, hcount⟩ := exists_run_load v s
    obtain ⟨slots, s₂, F, hrun', hgrows', hholds', hcount'⟩ := exists_run_loadItems rest s₁
    refine ⟨slot :: slots, s₂, _, ?_, hgrows.trans hgrows',
      .cons (hholds.grow hgrows') hholds', fun a => ?_⟩
    · rw [loadItems]
      exact (run_bind_of_run hrun).trans (run_bind_of_run hrun')
    · have hnew := fresh_add hgrows.length_le hgrows'.length_le a
      have hfirst := hcount a
      have hrest := hcount' a
      rw [List.count_append, List.count_append]
      omega

end

/-- Putting a value into a store adds records. -/
lemma grows_load (v : Value) (s : Store) : s.Grows ((load v).run s).2 := by
  obtain ⟨slot, s', R, L, hrun, hgrows, -⟩ := exists_run_load v s
  rw [hrun]
  exact hgrows

/-! ### Values held beside each other -/

/-- Slots of a store hold values, and no record is used twice. -/
def HoldsApart (s : Store) (held : List (Slot × Value)) : Prop :=
  ∃ F, HoldsItems s (held.map (·.1)) (held.map (·.2)) F ∧ F.Nodup

/-- A store holds nothing to begin with. -/
lemma HoldsApart.nil (s : Store) : s.HoldsApart [] := ⟨[], .nil, List.nodup_nil⟩

/-- **A value that is put into a store** is held beside those that were there. -/
theorem HoldsApart.load {held : List (Slot × Value)} (h : s.HoldsApart held) (v : Value) :
    ((load v).run s).2.HoldsApart ((((load v).run s).1, v) :: held) := by
  obtain ⟨F, hF, hnodup⟩ := h
  obtain ⟨slot, s', R, L, hrun, hgrows, hheld, hcount⟩ := exists_run_load v s
  rw [hrun]
  refine ⟨R ++ L ++ F, .cons hheld (hF.frame fun a ha => hgrows.getElem? (hF.lt_length a ha)), ?_⟩
  refine List.nodup_iff_count_le_one.2 fun a => ?_
  have hold := List.nodup_iff_count_le_one.1 hnodup a
  have hboth := add_le_one_of_fresh hold (fun hused =>
    hF.lt_length a (List.count_pos_iff.1 hused)) (hcount a)
  rw [List.count_append, List.count_append]
  omega

end TableClient.Config.Store
