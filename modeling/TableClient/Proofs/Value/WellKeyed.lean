import TableClient.Json.Reader
import TableClient.Proofs.Computation
import TableClient.Proofs.Value.Keys

set_option relaxedAutoImplicit false
set_option autoImplicit false

/-!
# Records with one entry a key

Texts are the same key only as themselves, so that an entry that is set by a text is found under
this text and under no other. A value is well-keyed when no record in it has two entries of one key;
what is set in such a record and what is found in it is well-keyed again, and so is every value that
is read from JSON text, in which a repeated name replaces the entry that is there.

## Main definitions

* `TableClient.Value.WellKeyed` — the values whose records have one entry a key.

## Main results

* `TableClient.Entries.get?_insert_of_ne` — an entry that is set is found under no other text.
* `TableClient.Value.WellKeyed.insert` — setting an entry.
* `TableClient.Json.wellKeyed_readChars` — values that are read from JSON text.
-/

namespace TableClient

/-! ### Texts as keys -/

namespace Value

/-- A value is the same key as a text when it is this text. -/
lemma beq_text_iff (v : Value) (t : Text) : (v == text t) = true ↔ v = text t := by
  show same v (text t) = true ↔ _
  cases v with
  | text s => simp [same]
  | bool b => simp [same, sameNumber, integer?]
  | int n => simp [same, sameNumber, integer?]
  | float x =>
    cases h : x.integer? <;> simp [same, sameNumber, integer?, h]
  | _ => simp [same, sameNumber, integer?]

/-- A text is the same key as a value when the value is this text. -/
lemma text_beq_iff (t : Text) (v : Value) : (text t == v) = true ↔ v = text t := by
  show same (text t) v = true ↔ _
  cases v with
  | text s =>
    simp only [same, beq_iff_eq, text.injEq]
    exact eq_comm
  | bool b => simp [same, sameNumber, integer?]
  | int n => simp [same, sameNumber, integer?]
  | float x =>
    cases h : x.integer? <;> simp [same, sameNumber, integer?, h]
  | _ => simp [same, sameNumber, integer?]

end Value

namespace Entries

/-- An entry that is set by a text is found under it. -/
lemma get?_insert_self (es : Entries) (t : Text) (v : Value) :
    (es.insert (.text t) v).get? (.text t) = some v :=
  Keyed.get?_insert_self es v ((Value.beq_text_iff _ t).2 rfl)

/-- **An entry that is set is found under no other text.** -/
theorem get?_insert_of_ne (es : Entries) {key : Value} {t : Text} (v : Value)
    (h : key ≠ .text t) : (es.insert key v).get? (.text t) = es.get? (.text t) := by
  refine Keyed.get?_insert_of_apart es v (mt (Value.beq_text_iff key t).1 h) fun k hk hkt => ?_
  obtain rfl := (Value.beq_text_iff k t).1 hkt
  exact h ((Value.text_beq_iff t key).1 hk)

end Entries

/-! ### Well-keyed values -/

namespace Value

/-- A value in which no record has two entries of one key, as far as it is made of records. -/
inductive WellKeyed : Value → Prop where
  | record {entries : Entries} : entries.keys.Pairwise (fun k k' => (k == k') = false) →
    (∀ e ∈ entries, WellKeyed e.2) → WellKeyed (.record entries)
  /-- A value that is no record has no entries. -/
  | other {v : Value} : (∀ entries, v ≠ .record entries) → WellKeyed v

namespace WellKeyed

variable {entries : Entries} {key v : Value}

/-- The keys of a well-keyed record are apart from each other. -/
lemma keys_apart (h : WellKeyed (.record entries)) :
    entries.keys.Pairwise fun k k' => (k == k') = false := by
  cases h with
  | record hkeys _ => exact hkeys
  | other h => exact absurd rfl (h entries)

/-- The values of a well-keyed record are well-keyed. -/
lemma of_mem (h : WellKeyed (.record entries)) : ∀ e ∈ entries, WellKeyed e.2 := by
  cases h with
  | record _ hvalues => exact hvalues
  | other h => exact absurd rfl (h entries)

/-- What is found in a well-keyed record is well-keyed. -/
lemma get? (h : WellKeyed (.record entries)) (hv : entries.get? key = some v) : WellKeyed v := by
  obtain ⟨e, he, -, rfl⟩ := Keyed.exists_mem_of_get? hv
  exact h.of_mem e he

/-- The record without entries is well-keyed. -/
lemma empty : WellKeyed (.record []) := .record .nil (List.forall_mem_nil _)

/-- **Setting an entry keeps a record well-keyed.** -/
theorem insert (h : WellKeyed (.record entries)) (hv : WellKeyed v) :
    WellKeyed (.record (entries.insert key v)) := by
  refine .record ?_ ?_
  · rw [Keyed.keys_insert]
    split
    · exact h.keys_apart
    · rename_i hnew
      refine List.pairwise_append.2 ⟨h.keys_apart, List.pairwise_singleton _ _, ?_⟩
      intro k hk k' hk'
      obtain rfl := List.mem_singleton.1 hk'
      rw [Keyed.has_eq_any] at hnew
      exact Bool.eq_false_iff.2 fun hsame => hnew (List.any_eq_true.2 ⟨k, hk, hsame⟩)
  · intro e he
    rcases Keyed.mem_insert he with hvalue | hmem
    · rw [hvalue]
      exact hv
    · exact h.of_mem e hmem

end WellKeyed

/-! ### Properly keyed values -/

/-- A value in which each key of a record finds an entry of its own, as far as it is made of
records. -/
inductive ProperlyKeyed : Value → Prop where
  | record {entries : Entries} : entries.keys.Pairwise (fun k k' => (k == k') = false) →
    (∀ key ∈ entries.keys, (key == key) = true) → (∀ e ∈ entries, ProperlyKeyed e.2) →
    ProperlyKeyed (.record entries)
  /-- A value that is no record has no entries. -/
  | other {v : Value} : (∀ entries, v ≠ .record entries) → ProperlyKeyed v

namespace ProperlyKeyed

variable {entries : Entries} {key v : Value}

/-- A properly keyed value is well-keyed. -/
lemma wellKeyed (h : ProperlyKeyed v) : WellKeyed v := by
  induction h with
  | record hapart _ _ ih => exact .record hapart ih
  | other h => exact .other h

/-- The keys of a properly keyed record are the same as themselves. -/
lemma keys_self (h : ProperlyKeyed (.record entries)) :
    ∀ key ∈ entries.keys, (key == key) = true := by
  cases h with
  | record _ hself _ => exact hself
  | other h => exact absurd rfl (h entries)

/-- The values of a properly keyed record are properly keyed. -/
lemma of_mem (h : ProperlyKeyed (.record entries)) : ∀ e ∈ entries, ProperlyKeyed e.2 := by
  cases h with
  | record _ _ hvalues => exact hvalues
  | other h => exact absurd rfl (h entries)

/-- What is found in a properly keyed record is properly keyed. -/
lemma get? (h : ProperlyKeyed (.record entries)) (hv : entries.get? key = some v) :
    ProperlyKeyed v := by
  obtain ⟨e, he, -, rfl⟩ := Keyed.exists_mem_of_get? hv
  exact h.of_mem e he

/-- The entries of a properly keyed record are found under their keys. -/
lemma get?_of_mem (h : ProperlyKeyed (.record entries)) {e : Value × Value} (he : e ∈ entries) :
    entries.get? e.1 = some e.2 :=
  Keyed.get?_of_mem he h.wellKeyed.keys_apart (h.keys_self e.1 (List.mem_map_of_mem he))

end ProperlyKeyed

end Value

/-! ### Values from JSON text -/

namespace Json

open Value (WellKeyed)

/-- The values that have a name are no records. -/
lemma not_record_of_readName {cs rest : List Char} {v : Value} (h : readName? cs = some (v, rest))
    (entries : Entries) : v ≠ .record entries := by
  rintro rfl
  unfold readName? at h
  split at h <;> cases h

/-- Numbers are no records. -/
lemma not_record_of_readNumber {cs rest : List Char} {v : Value}
    (h : readNumber cs = .ok (v, rest)) (entries : Entries) : v ≠ .record entries := by
  rintro rfl
  unfold readNumber at h
  -- behind its sign, if there is one, a number is read in one way
  split at h <;>
  · unfold readMagnitude at h
    grind

/-- With a number of steps, the values that are read are well-keyed, and so are the entries that are
read, once those that they are added to are. -/
structure ReadsWellKeyed (steps : Nat) : Prop where
  value : ∀ {levels : Nat} {cs rest : List Char} {v : Value},
    readValue steps levels cs = .ok (v, rest) → WellKeyed v
  entries : ∀ {levels : Nat} {es es' : Entries} {cs rest : List Char}, WellKeyed (.record es) →
    readEntries steps levels es cs = .ok (es', rest) → WellKeyed (.record es')

namespace ReadsWellKeyed

variable {steps levels : Nat} {cs rest : List Char}

/-- One more step for a value. -/
lemma value_succ (h : ReadsWellKeyed steps) {v : Value}
    (hread : readValue (steps + 1) levels cs = .ok (v, rest)) : WellKeyed v := by
  unfold readValue at hread
  split at hread
  · obtain ⟨⟨t, rest'⟩, -, hv⟩ := map_eq_ok_iff.1 hread
    cases hv
    exact .other (by simp)
  · cases hread
  · cases hread
  · split at hread
    · cases hread
      exact .other (by simp)
    · obtain ⟨⟨vs, rest'⟩, -, hv⟩ := map_eq_ok_iff.1 hread
      cases hv
      exact .other (by simp)
  · split at hread
    · cases hread
      exact .empty
    · obtain ⟨⟨es, rest'⟩, hes, hv⟩ := map_eq_ok_iff.1 hread
      cases hv
      exact h.entries .empty hes
  · split at hread
    · rename_i found hfound
      cases hread
      exact .other (not_record_of_readName hfound)
    · exact .other (not_record_of_readNumber hread)

/-- One more step for entries: one of them is read and set. -/
lemma entries_succ (h : ReadsWellKeyed steps) {es es' : Entries} (hes : WellKeyed (.record es))
    (hread : readEntries (steps + 1) levels es cs = .ok (es', rest)) :
    WellKeyed (.record es') := by
  unfold readEntries at hread
  split at hread
  · obtain ⟨⟨key, rest₁⟩, -, hrest₁⟩ := bind_eq_ok_iff.1 hread
    dsimp only at hrest₁
    split at hrest₁
    · obtain ⟨⟨v, rest₂⟩, hv, hrest₂⟩ := bind_eq_ok_iff.1 hrest₁
      have hset : WellKeyed (.record (es.insert (.text key) v)) := hes.insert (h.value hv)
      dsimp only at hrest₂
      split at hrest₂
      · cases hrest₂
        exact hset
      · exact h.entries hset hrest₂
      · cases hrest₂
    · cases hrest₁
  · cases hread

end ReadsWellKeyed

/-- **What is read is well-keyed**, whatever the number of steps.

**Proof sketch.** Induction on the number of steps. A record is read by setting its entries one by
one, beginning with none (`ReadsWellKeyed.entries_succ`); all other values are no records. -/
theorem readsWellKeyed (steps : Nat) : ReadsWellKeyed steps := by
  induction steps with
  | zero =>
    constructor
    · intro levels cs rest v hread
      rw [readValue] at hread
      cases hread
    · intro levels es es' cs rest _ hread
      rw [readEntries] at hread
      cases hread
  | succ steps ih => exact ⟨ih.value_succ, ih.entries_succ⟩

/-- **Values that are read from JSON text are well-keyed.** -/
theorem wellKeyed_readChars {cs : List Char} {v : Value} (h : readChars cs = .ok v) :
    WellKeyed v := by
  obtain ⟨⟨v', rest⟩, hread, hrest⟩ := bind_eq_ok_iff.1 h
  dsimp only at hrest
  split at hrest
  · cases hrest
    exact (readsWellKeyed _).value hread
  · cases hrest

end Json

end TableClient
