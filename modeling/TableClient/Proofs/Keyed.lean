import Mathlib.Data.List.Forall2
import TableClient.Keyed

set_option relaxedAutoImplicit false
set_option autoImplicit false

/-!
# Reading and setting entries

What is found under a key after entries were set, and which keys there are. The equality test of the
keys need not be an equivalence: each law asks for what it needs of the keys that it is about.

Two lists of entries are alike when they have the same keys, in order, and related values. What is
found in them is related then, and they stay alike when related values are set.

## Main definitions

* `TableClient.Keyed.Alike` — lists of entries with the same keys and related values.

## Main results

* `TableClient.Keyed.get?_insert_self`, `TableClient.Keyed.get?_insert_of_apart`,
  `TableClient.Keyed.get?_insert` — what is found after an entry was set.
* `TableClient.Keyed.keys_insert` — the keys after an entry was set.
* `TableClient.Keyed.eq_of_get?` — entries are what their keys are and what is found in them.
* `TableClient.Keyed.get?_insertAll` — what is found after several entries were set.
* `TableClient.Keyed.get?_insertMissing` — entries that are filled in stand behind those that are
  there.
* `TableClient.Keyed.insertAll_eq_map` — entries that are set on top of others replace their values.
* `TableClient.Keyed.Alike.get?_eq_or`, `TableClient.Keyed.Alike.insert` — what is found in entries
  that are alike, and that they stay alike.
-/

namespace TableClient.Keyed

variable {κ α : Type}

section

variable [BEq κ]

/-- The first entry of a key in a list in two parts. -/
lemma get?_append (es es' : Keyed κ α) (key : κ) :
    Keyed.get? (es ++ es') key = (es.get? key).or (es'.get? key) := by
  induction es with
  | nil => rfl
  | cons e es ih =>
    rw [List.cons_append, get?, get?]
    split
    · rfl
    · exact ih

/-- What stands for a key when all values are changed. -/
lemma get?_map_value {β : Type} (f : α → β) (es : Keyed κ α) (key : κ) :
    Keyed.get? (es.map fun e => (e.1, f e.2)) key = (es.get? key).map f := by
  induction es with
  | nil => rfl
  | cons e es ih =>
    obtain ⟨k, a⟩ := e
    rw [List.map_cons, get?, get?, ih]
    split <;> rfl

/-- A list in two parts has the keys of both. -/
lemma has_append (es es' : Keyed κ α) (key : κ) :
    Keyed.has (es ++ es') key = (es.has key || es'.has key) := by
  rw [has, get?_append, Option.isSome_or]
  rfl

/-- What is found under a key is one of the entries. -/
lemma exists_mem_of_get? {es : Keyed κ α} {key : κ} {a : α} (h : es.get? key = some a) :
    ∃ e ∈ es, (e.1 == key) = true ∧ e.2 = a := by
  induction es with
  | nil => cases h
  | cons e es ih =>
    rw [get?] at h
    split at h
    · rename_i hkey
      exact ⟨e, List.mem_cons_self, hkey, Option.some.inj h⟩
    · obtain ⟨e', he', hfound⟩ := ih h
      exact ⟨e', List.mem_cons_of_mem _ he', hfound⟩

/-- Nothing is found under a key that all keys are apart from. -/
lemma get?_eq_none {es : Keyed κ α} {key : κ} (h : ∀ e ∈ es, (e.1 == key) = false) :
    es.get? key = none := by
  cases hfound : es.get? key with
  | none => rfl
  | some a =>
    obtain ⟨e, he, hkey, -⟩ := exists_mem_of_get? hfound
    rw [h e he] at hkey
    cases hkey

/-- An entry that was set is found under its key. -/
lemma get?_insert_self (es : Keyed κ α) {key : κ} (a : α) (h : (key == key) = true) :
    (es.insert key a).get? key = some a := by
  induction es with
  | nil => exact if_pos h
  | cons e es ih =>
    rw [insert]
    split
    · rename_i hkey
      exact if_pos hkey
    · rename_i hkey
      rw [get?, if_neg hkey, ih]

/-- **Setting an entry leaves what is found under a key that is apart from its own**: one that no
key is the same as that is the same as its own. -/
theorem get?_insert_of_apart (es : Keyed κ α) {key other : κ} (a : α)
    (hkey : ¬ (key == other) = true) (h : ∀ k, (k == key) = true → ¬ (k == other) = true) :
    (es.insert key a).get? other = es.get? other := by
  induction es with
  | nil => exact if_neg hkey
  | cons e es ih =>
    rw [insert]
    split
    · rename_i hsame
      rw [get?, get?, if_neg (h _ hsame), if_neg (h _ hsame)]
    · rw [get?, get?, ih]

/-- There is an entry of a key when one of the keys is the same. -/
lemma has_eq_any (es : Keyed κ α) (key : κ) : es.has key = es.keys.any (· == key) := by
  induction es with
  | nil => rfl
  | cons e es ih =>
    rw [has, get?, keys, List.map_cons, List.any_cons]
    by_cases hkey : (e.1 == key) = true
    · rw [if_pos hkey, hkey]
      rfl
    · rw [if_neg hkey, Bool.eq_false_iff.2 hkey, Bool.false_or]
      exact ih

/-- **The keys after an entry was set**: a new key stands behind the others. -/
theorem keys_insert (es : Keyed κ α) (key : κ) (a : α) :
    (es.insert key a).keys = if es.has key then es.keys else es.keys ++ [key] := by
  induction es with
  | nil => rfl
  | cons e es ih =>
    rw [insert, has, get?]
    by_cases hkey : (e.1 == key) = true
    · rw [if_pos hkey, if_pos hkey]
      rfl
    · rw [if_neg hkey, if_neg hkey]
      show e.1 :: (Keyed.insert es key a).keys = if Keyed.has es key then _ else _
      rw [ih]
      split <;> rfl

/-- The values after an entry was set are the new one and some of the others. -/
lemma mem_insert {es : Keyed κ α} {key : κ} {a : α} {e : κ × α} (h : e ∈ es.insert key a) :
    e.2 = a ∨ e ∈ es := by
  induction es with
  | nil =>
    obtain rfl := List.mem_singleton.1 h
    exact .inl rfl
  | cons e' es ih =>
    rw [insert] at h
    split at h
    · rcases List.mem_cons.1 h with rfl | hmem
      · exact .inl rfl
      · exact .inr (List.mem_cons_of_mem _ hmem)
    · rcases List.mem_cons.1 h with rfl | hmem
      · exact .inr List.mem_cons_self
      · exact (ih hmem).imp_right (List.mem_cons_of_mem _)

/-- Setting an entry to what is found under its key changes nothing. -/
lemma insert_of_get?_eq_some {es : Keyed κ α} {key : κ} {a : α} (h : es.get? key = some a) :
    es.insert key a = es := by
  induction es with
  | nil => cases h
  | cons e es ih =>
    rw [get?] at h
    rw [insert]
    split at h
    · rename_i hkey
      rw [if_pos hkey, ← Option.some.inj h]
    · rename_i hkey
      rw [if_neg hkey, ih h]

/-- An entry of a new key is added at the end. -/
lemma insert_of_get?_eq_none {es : Keyed κ α} {key : κ} (a : α) (h : es.get? key = none) :
    es.insert key a = es ++ [(key, a)] := by
  induction es with
  | nil => rfl
  | cons e es ih =>
    rw [get?] at h
    rw [insert]
    split at h
    · cases h
    · rename_i hkey
      rw [if_neg hkey, ih h, List.cons_append]

/-- An entry is found under its key if the keys are apart and this one is the same as itself. -/
lemma get?_of_mem {es : Keyed κ α} {e : κ × α} (he : e ∈ es)
    (hapart : es.keys.Pairwise fun k k' => (k == k') = false) (hself : (e.1 == e.1) = true) :
    es.get? e.1 = some e.2 := by
  induction es with
  | nil => cases he
  | cons first es ih =>
    obtain ⟨hfirst, hrest⟩ := List.pairwise_cons.1 hapart
    rcases List.mem_cons.1 he with rfl | hmem
    · exact if_pos hself
    · have hother : ¬ (first.1 == e.1) = true :=
        Bool.eq_false_iff.1 (hfirst e.1 (List.mem_map_of_mem hmem))
      rw [get?, if_neg hother, ih hmem hrest]

/-- **Entries with the same keys in which the same is found are equal**, if the keys are apart and
each of them is the same as itself. -/
theorem eq_of_get? {es es' : Keyed κ α} (hkeys : es.keys = es'.keys)
    (hapart : es.keys.Pairwise fun k k' => (k == k') = false)
    (hself : ∀ key ∈ es.keys, (key == key) = true)
    (h : ∀ key ∈ es.keys, es.get? key = es'.get? key) : es = es' := by
  have hlength : es.length = es'.length := by
    simpa [keys] using congrArg List.length hkeys
  refine List.ext_getElem hlength fun i hi hi' => ?_
  have hkey : es[i].1 = es'[i].1 := by
    have hat : es.keys[i]? = es'.keys[i]? := by rw [hkeys]
    simpa [keys, hi, hi'] using hat
  have hmem : es[i].1 ∈ es.keys := List.mem_map_of_mem (List.getElem_mem hi)
  have hfound := get?_of_mem (List.getElem_mem hi) hapart (hself _ hmem)
  have hfound' := get?_of_mem (List.getElem_mem hi') (hkeys ▸ hapart) (hkey ▸ hself _ hmem)
  refine Prod.ext hkey ?_
  rw [← hkey, ← h _ hmem, hfound] at hfound'
  exact Option.some.inj hfound'

end

section

variable [BEq κ] [PartialEquivBEq κ]

/-- The same is found under keys that are the same. -/
lemma get?_congr (es : Keyed κ α) {key key' : κ} (h : (key == key') = true) :
    es.get? key = es.get? key' := by
  induction es with
  | nil => rfl
  | cons e es ih => rw [get?, get?, BEq.congr_right h, ih]

/-- **What is found after an entry was set**, under any key. -/
theorem get?_insert (es : Keyed κ α) (key other : κ) (a : α) :
    (es.insert key a).get? other = if key == other then some a else es.get? other := by
  induction es with
  | nil => rfl
  | cons e es ih =>
    rw [insert]
    by_cases hkey : (e.1 == key) = true
    · rw [if_pos hkey, get?, get?, BEq.congr_left hkey]
      split <;> rfl
    · rw [if_neg hkey, get?, get?, ih]
      by_cases hother : (e.1 == other) = true
      · -- the key that is found is not the one that was set, or both were the same
        have hnot : ¬ (key == other) = true := fun h => hkey (BEq.trans hother (BEq.symm h))
        rw [if_pos hother, if_neg hnot, if_pos hother]
      · rw [if_neg hother, if_neg hother]

end

section

variable [DecidableEq κ]

/-- Setting an entry leaves the entries of other keys. -/
lemma get?_insert_of_ne (es : Keyed κ α) {key other : κ} (a : α) (h : key ≠ other) :
    (es.insert key a).get? other = es.get? other := by
  refine es.get?_insert_of_apart a (by simpa using h) fun k hk => ?_
  obtain rfl : k = key := by simpa using hk
  simpa using h

/-- There is an entry of a key when it is one of the keys. -/
lemma has_iff_mem_keys {es : Keyed κ α} {key : κ} : es.has key = true ↔ key ∈ es.keys := by
  rw [has_eq_any, List.any_eq_true]
  simp

/-- Nothing is found under what is none of the keys. -/
lemma get?_of_notMem_keys {es : Keyed κ α} {key : κ} (h : key ∉ es.keys) : es.get? key = none := by
  have hnot := mt has_iff_mem_keys.1 h
  rwa [has, Option.not_isSome_iff_eq_none] at hnot

/-- Setting an entry whose key is there replaces its value. -/
lemma insert_eq_map {es : Keyed κ α} {key : κ} (hes : es.keys.Nodup) (h : key ∈ es.keys) (a : α) :
    es.insert key a = es.map fun e => (e.1, if e.1 = key then a else e.2) := by
  induction es with
  | nil => cases h
  | cons e es ih =>
    obtain ⟨(hfirst : e.1 ∉ Keyed.keys es), hrest⟩ := List.nodup_cons.1 hes
    rw [insert, List.map_cons]
    by_cases hkey : e.1 = key
    · subst hkey
      have hothers : es.map (fun e' => (e'.1, if e'.1 = e.1 then a else e'.2)) = es := by
        refine (List.map_congr_left fun e' he' => ?_).trans (List.map_id es)
        have hmem : e'.1 ∈ Keyed.keys es := List.mem_map_of_mem he'
        have hne : e'.1 ≠ e.1 := fun heq => hfirst (heq ▸ hmem)
        rw [if_neg hne]
        rfl
      rw [if_pos (beq_self_eq_true e.1), if_pos rfl, hothers]
    · have hthere : key ∈ Keyed.keys es := (List.mem_cons.1 h).resolve_left (Ne.symm hkey)
      rw [if_neg (by simpa using hkey), if_neg hkey, ih hrest hthere]

/-- **Entries that are set on top of others**, and whose keys are there, replace their values. -/
theorem insertAll_eq_map {es others : Keyed κ α} (hes : es.keys.Nodup)
    (hothers : others.keys.Nodup) (h : ∀ key ∈ others.keys, key ∈ es.keys) :
    es.insertAll others = es.map fun e => (e.1, (others.get? e.1).getD e.2) := by
  induction others generalizing es with
  | nil => exact (List.map_id es).symm
  | cons e others ih =>
    obtain ⟨key, a⟩ := e
    obtain ⟨hkey, hrest⟩ := List.forall_mem_cons.1 h
    obtain ⟨hfirst, hnodup⟩ := List.nodup_cons.1 hothers
    have hkeys : (es.insert key a).keys = es.keys := by
      rw [keys_insert, if_pos (has_iff_mem_keys.2 hkey)]
    have hnone := get?_of_notMem_keys hfirst
    show (es.insert key a).insertAll others = _
    rw [ih (hkeys ▸ hes) hnodup (hkeys ▸ hrest), insert_eq_map hes hkey, List.map_map]
    refine List.map_congr_left fun e' _ => ?_
    dsimp only [Function.comp]
    rw [get?]
    by_cases heq : key = e'.1
    · rw [if_pos heq.symm, ← heq, hnone, if_pos (beq_self_eq_true key)]
      rfl
    · rw [if_neg (Ne.symm heq), if_neg (by simpa using heq)]

/-- Setting an entry keeps the keys distinct. -/
lemma nodup_insert {es : Keyed κ α} (h : es.keys.Nodup) (key : κ) (a : α) :
    (es.insert key a).keys.Nodup := by
  rw [keys_insert]
  split
  · exact h
  · rename_i hnew
    have hnot : key ∉ es.keys := fun hmem => hnew (has_iff_mem_keys.2 hmem)
    refine List.nodup_append.2 ⟨h, (List.pairwise_singleton _ key), fun k hk k' hk' => ?_⟩
    obtain rfl := List.mem_singleton.1 hk'
    exact fun heq => hnot (heq ▸ hk)

/-- Setting several entries keeps the keys distinct. -/
lemma nodup_insertAll {es : Keyed κ α} (h : es.keys.Nodup) (others : Keyed κ α) :
    (es.insertAll others).keys.Nodup := by
  induction others generalizing es with
  | nil => exact h
  | cons e others ih => exact ih (nodup_insert h e.1 e.2)

/-- The entries after one was set are this one and some of the others. -/
lemma eq_or_mem_of_mem_insert {es : Keyed κ α} {key : κ} {a : α} {e : κ × α}
    (h : e ∈ es.insert key a) : e = (key, a) ∨ e ∈ es := by
  induction es with
  | nil => exact .inl (List.mem_singleton.1 h)
  | cons e' es ih =>
    rw [insert] at h
    split at h
    · rename_i hkey
      obtain rfl : e'.1 = key := by simpa using hkey
      exact (List.mem_cons.1 h).imp_right (List.mem_cons_of_mem _)
    · rcases List.mem_cons.1 h with rfl | hmem
      · exact .inr List.mem_cons_self
      · exact (ih hmem).imp_right (List.mem_cons_of_mem _)

/-- The entries after several were set are from these or from those that were there. -/
lemma mem_or_mem_of_mem_insertAll {es others : Keyed κ α} {e : κ × α}
    (h : e ∈ es.insertAll others) : e ∈ others ∨ e ∈ es := by
  induction others generalizing es with
  | nil => exact .inr h
  | cons e' others ih =>
    rcases ih h with hmem | hmem
    · exact .inl (List.mem_cons_of_mem _ hmem)
    · rcases eq_or_mem_of_mem_insert hmem with rfl | hthere
      · exact .inl List.mem_cons_self
      · exact .inr hthere

/-- **What is found after entries with distinct keys were set**: what they have, or else what was
there. -/
theorem get?_insertAll {others : Keyed κ α} (hothers : others.keys.Nodup) (es : Keyed κ α)
    (key : κ) : (es.insertAll others).get? key = (others.get? key).or (es.get? key) := by
  induction others generalizing es with
  | nil => rfl
  | cons e others ih =>
    obtain ⟨hfirst, hrest⟩ := List.nodup_cons.1 hothers
    show ((es.insert e.1 e.2).insertAll others).get? key = _
    rw [ih hrest, get?]
    by_cases hkey : e.1 = key
    · subst hkey
      rw [get?_of_notMem_keys hfirst, es.get?_insert_self e.2 (beq_self_eq_true e.1),
        if_pos (beq_self_eq_true e.1)]
      rfl
    · rw [es.get?_insert_of_ne e.2 hkey, if_neg (by simpa using hkey)]

/-- **Entries that are filled in stand behind those that are there.** -/
theorem get?_insertMissing (es others : Keyed κ α) (key : κ) :
    (es.insertMissing others).get? key = (es.get? key).or (others.get? key) := by
  induction others generalizing es with
  | nil => exact (Option.or_none).symm
  | cons e others ih =>
    have hstep : es.insertMissing (e :: others) =
        Keyed.insertMissing (if es.has e.1 then es else es.insert e.1 e.2) others := rfl
    rw [hstep, ih]
    by_cases hkey : e.1 = key
    · subst hkey
      have hfirst : Keyed.get? (e :: others) e.1 = some e.2 := if_pos (beq_self_eq_true e.1)
      cases hfound : es.get? e.1 with
      | some a => simp [has, hfound]
      | none => simp [has, hfound, hfirst, es.get?_insert_self e.2 (beq_self_eq_true e.1)]
    · have hrest : Keyed.get? (e :: others) key = Keyed.get? others key :=
        if_neg (by simpa using hkey)
      rw [hrest]
      split
      · rfl
      · rw [es.get?_insert_of_ne e.2 hkey]

end

section Alike

/-- Entries with the same keys, in order, whose values are related. -/
def Alike (R : κ → α → α → Prop) (es es' : Keyed κ α) : Prop :=
  List.Forall₂ (fun e e' => e.1 = e'.1 ∧ R e.1 e.2 e'.2) es es'

variable {R : κ → α → α → Prop} {es es' others others' : Keyed κ α}

/-- Entries are alike themselves if each value is related to itself. -/
lemma Alike.refl (h : ∀ k a, R k a a) (es : Keyed κ α) : Alike R es es :=
  List.forall₂_same.2 fun e _ => ⟨rfl, h e.1 e.2⟩

/-- Entries that are alike have the same keys. -/
lemma Alike.keys_eq (h : Alike R es es') : es.keys = es'.keys := by
  induction h with
  | nil => rfl
  | cons hfirst _ ih => exact congrArg₂ List.cons hfirst.1 ih

variable [DecidableEq κ]

/-- Entries that are alike have the same keys to be found. -/
lemma Alike.has_eq (h : Alike R es es') (key : κ) : es.has key = es'.has key := by
  rw [has_eq_any, has_eq_any, h.keys_eq]

/-- **What is found in entries that are alike** is nothing in both, or related. -/
theorem Alike.get?_eq_or (h : Alike R es es') (key : κ) :
    (es.get? key = none ∧ es'.get? key = none) ∨
      ∃ a a', es.get? key = some a ∧ es'.get? key = some a' ∧ R key a a' := by
  induction h with
  | nil => exact .inl ⟨rfl, rfl⟩
  | @cons e e' es es' hfirst _ ih =>
    obtain ⟨k, a⟩ := e
    obtain ⟨k', a'⟩ := e'
    obtain ⟨rfl, hvalue⟩ := hfirst
    rw [get?, get?]
    by_cases hkey : k = key
    · subst hkey
      rw [if_pos (beq_self_eq_true k), if_pos (beq_self_eq_true k)]
      exact .inr ⟨a, a', rfl, rfl, hvalue⟩
    · rw [if_neg (by simpa using hkey), if_neg (by simpa using hkey)]
      exact ih

/-- **Entries stay alike when related values are set.** -/
theorem Alike.insert (h : Alike R es es') {key : κ} {a a' : α} (ha : R key a a') :
    Alike R (es.insert key a) (es'.insert key a') := by
  induction h with
  | nil => exact .cons ⟨rfl, ha⟩ .nil
  | @cons e e' es es' hfirst hrest ih =>
    obtain ⟨k, b⟩ := e
    obtain ⟨k', b'⟩ := e'
    obtain ⟨rfl, hvalue⟩ := hfirst
    rw [Keyed.insert, Keyed.insert]
    by_cases hkey : k = key
    · subst hkey
      rw [if_pos (beq_self_eq_true k), if_pos (beq_self_eq_true k)]
      exact .cons ⟨rfl, ha⟩ hrest
    · rw [if_neg (by simpa using hkey), if_neg (by simpa using hkey)]
      exact .cons ⟨rfl, hvalue⟩ ih

/-- Entries stay alike when entries that are alike are set on top of them. -/
lemma Alike.insertAll (h : Alike R es es') (hothers : Alike R others others') :
    Alike R (es.insertAll others) (es'.insertAll others') := by
  induction hothers generalizing es es' with
  | nil => exact h
  | @cons e e' others others' hfirst _ ih =>
    obtain ⟨k, a⟩ := e
    obtain ⟨k', a'⟩ := e'
    obtain ⟨rfl, hvalue⟩ := hfirst
    exact ih (h.insert hvalue)

/-- Entries stay alike when others are filled in. -/
lemma Alike.insertMissing (h : Alike R es es') (hrefl : ∀ k a, R k a a) (others : Keyed κ α) :
    Alike R (es.insertMissing others) (es'.insertMissing others) := by
  induction others generalizing es es' with
  | nil => exact h
  | cons e others ih =>
    show Alike R (Keyed.insertMissing (if es.has e.1 then es else es.insert e.1 e.2) others)
      (Keyed.insertMissing (if es'.has e.1 then es' else es'.insert e.1 e.2) others)
    rw [h.has_eq e.1]
    split
    · exact ih h
    · exact ih (h.insert (hrefl e.1 e.2))

end Alike

end TableClient.Keyed
