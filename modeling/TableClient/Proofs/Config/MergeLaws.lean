import TableClient.Proofs.Config.Merging

set_option relaxedAutoImplicit false
set_option autoImplicit false

/-!
# Laws of laying trees over each other

The tree without entries is neutral on either side. A tree that is laid over another one once more
changes nothing, and a merged tree that is laid over its lower one gives itself. All of these are
equalities of trees, with the order of the keys in every record.

The keys are any values. A record is meant to find an entry for each of its keys, and only one: if
it did not, an entry that is laid over it would be added to it instead.

## Main results

* `TableClient.Config.mergeInto_nil_left` — entries that are laid over none.
* `TableClient.Config.overlay_overlay_same` — laying a value over another one once more.
* `TableClient.Config.overlay_absorbs` — a merged value laid over the lower one.
* `TableClient.Config.merge_laws` — all of it, for trees.
-/

namespace TableClient.Config

open Value (ProperlyKeyed)

variable {base upper : Entries} {low : Option Value} {v : Value}

/-- A value is laid over nothing as it is. -/
lemma overlay_none (v : Value) : overlay v none = v :=
  overlay_of_low_not_record fun _ h => nomatch h

/-! ### New entries -/

/-- Entries whose keys are new stand behind those that they are laid over. -/
lemma mergeInto_of_new (h : (Keyed.keys upper).Pairwise fun k k' => (k == k') = false)
    (hnew : ∀ key ∈ Keyed.keys upper, base.get? key = none) :
    mergeInto base upper = base ++ upper := by
  induction upper generalizing base with
  | nil => exact (List.append_nil base).symm
  | cons e upper ih =>
    obtain ⟨key, v⟩ := e
    obtain ⟨hapart, hrest⟩ := List.pairwise_cons.1 h
    obtain ⟨hkey, hothers⟩ := List.forall_mem_cons.1 hnew
    have hnext : ∀ other ∈ Keyed.keys upper, Keyed.get? (base ++ [(key, v)]) other = none := by
      intro other hother
      rw [Keyed.get?_append, hothers other hother, Option.none_or, Keyed.get?,
        if_neg (Bool.eq_false_iff.1 (hapart other hother))]
      rfl
    rw [mergeInto, hkey, overlay_none, Keyed.insert_of_get?_eq_none v hkey, ih hrest hnext,
      List.append_assoc, List.singleton_append]

/-- **Entries that are laid over none** are themselves. -/
theorem mergeInto_nil_left (h : (Keyed.keys upper).Pairwise fun k k' => (k == k') = false) :
    mergeInto [] upper = upper := by
  rw [mergeInto_of_new h fun _ _ => rfl]
  rfl

/-! ### Laying a value over another one once more -/

/-- Entries that are there already, as far as laying them over what is there goes, change
nothing. -/
lemma mergeInto_of_there
    (h : ∀ e ∈ upper, ∃ w, base.get? e.1 = some w ∧ overlay e.2 (some w) = w) :
    mergeInto base upper = base := by
  induction upper with
  | nil => rfl
  | cons e upper ih =>
    obtain ⟨⟨w, hfound, hw⟩, hrest⟩ := List.forall_mem_cons.1 h
    rw [mergeInto, hfound, hw, Keyed.insert_of_get?_eq_some hfound, ih hrest]

/-- **Laying a value over another one once more changes nothing.**

**Proof sketch.** Induction on the value. Of a merged record, what is found under a key of the upper
record is the value there, laid over something, and the induction has it that laying this value over
that once more changes nothing. -/
theorem overlay_overlay_same (h : ProperlyKeyed v) :
    ∀ low, overlay v (some (overlay v low)) = overlay v low := by
  induction h with
  | @record upper hapart hself hvalues ih =>
    have hupper : ProperlyKeyed (.record upper) := .record hapart hself hvalues
    intro low
    by_cases hrecord : ∃ base, low = some (.record base)
    · obtain ⟨base, rfl⟩ := hrecord
      refine congrArg Value.record (mergeInto_of_there fun e he => ?_)
      refine ⟨overlay e.2 (Keyed.get? base e.1), ?_, ih e he _⟩
      rw [get?_mergeInto hapart, hupper.get?_of_mem he]
      rfl
    · rw [overlay_of_low_not_record fun base heq => hrecord ⟨base, heq⟩]
      refine congrArg Value.record (mergeInto_of_there fun e he => ⟨e.2, hupper.get?_of_mem he, ?_⟩)
      have hagain := ih e he none
      rwa [overlay_none] at hagain
  | other h =>
    intro low
    have hleaf : ¬ (_ : Value).IsRecord := fun ⟨entries, heq⟩ => h entries heq
    rw [overlay_of_not_isRecord hleaf, overlay_of_not_isRecord hleaf]

/-- A value that is laid over itself is itself. -/
lemma overlay_self (h : ProperlyKeyed v) : overlay v (some v) = v := by
  have hagain := overlay_overlay_same h none
  rwa [overlay_none] at hagain

/-! ### Laying a merged value over the lower one -/

/-- The keys of a merged record that is laid over its lower one are its own: those of the lower one
are there, and the others are new, so that they are added in order. -/
lemma keys_mergeInto_mergeInto (hbase : ProperlyKeyed (.record base))
    (h : (mergeInto base upper).keys.Pairwise fun k k' => (k == k') = false)
    (hapart : (Keyed.keys upper).Pairwise fun k k' => (k == k') = false) :
    (mergeInto base (mergeInto base upper)).keys = (mergeInto base upper).keys := by
  have hthere : base.keys.filter (!base.has ·) = [] := by
    refine List.filter_eq_nil_iff.2 fun key hkey => ?_
    have hfound : base.has key = true :=
      (base.has_eq_any key).trans (List.any_eq_true.2 ⟨key, hkey, hbase.keys_self key hkey⟩)
    rw [hfound]
    decide
  rw [keys_mergeInto h, keys_mergeInto hapart, List.filter_append, hthere, List.nil_append,
    List.filter_filter]
  simp only [Bool.and_self]

/-- The keys of a merged record are the same as themselves. -/
lemma keys_self_mergeInto (hbase : ProperlyKeyed (.record base))
    (hupper : ProperlyKeyed (.record upper)) :
    ∀ key ∈ (mergeInto base upper).keys, (key == key) = true := by
  rw [keys_mergeInto hupper.wellKeyed.keys_apart]
  intro key hkey
  rcases List.mem_append.1 hkey with hlow | hnew
  · exact hbase.keys_self key hlow
  · exact hupper.keys_self key (List.mem_of_mem_filter hnew)

/-- **A merged value that is laid over the lower one is itself.**

**Proof sketch.** Induction on the upper value. Two records are merged, so it is enough that the
keys stay and that the same is found under each of them. What is found is a value of the upper
record laid over what the lower one has, where the induction applies, or what the lower one has,
laid over itself. -/
theorem overlay_absorbs (h : ProperlyKeyed v) :
    ∀ low : Option Value, (∀ u, low = some u → ProperlyKeyed u) →
      overlay (overlay v low) low = overlay v low := by
  induction h with
  | @record upper hapart hself hvalues ih =>
    have hupper : ProperlyKeyed (.record upper) := .record hapart hself hvalues
    intro low hlow
    by_cases hrecord : ∃ base, low = some (.record base)
    · obtain ⟨base, rfl⟩ := hrecord
      have hbase : ProperlyKeyed (.record base) := hlow _ rfl
      have hmerged : (mergeInto base upper).keys.Pairwise fun k k' => (k == k') = false :=
        (wellKeyed_overlay hupper.wellKeyed (some (.record base)) fun u hu =>
          (hlow u hu).wellKeyed).keys_apart
      have hkeys := keys_mergeInto_mergeInto hbase hmerged hapart
      have hselves := keys_self_mergeInto hbase hupper
      refine congrArg Value.record (Keyed.eq_of_get? hkeys (hkeys ▸ hmerged) (hkeys ▸ hselves) ?_)
      intro key _
      rw [get?_mergeInto hmerged, get?_mergeInto hapart]
      cases hfound : Keyed.get? upper key with
      | some u =>
        obtain ⟨e, he, -, rfl⟩ := Keyed.exists_mem_of_get? hfound
        exact congrArg some (ih e he (Keyed.get? base key) fun w hw => hbase.get? hw)
      | none =>
        cases hold : Keyed.get? base key with
        | none => rfl
        | some w => exact congrArg some (overlay_self (hbase.get? hold))
    · have hothers : ∀ entries, low ≠ some (.record entries) := fun base heq => hrecord ⟨base, heq⟩
      rw [overlay_of_low_not_record hothers, overlay_of_low_not_record hothers]
  | other h =>
    intro low _
    have hleaf : ¬ (_ : Value).IsRecord := fun ⟨entries, heq⟩ => h entries heq
    rw [overlay_of_not_isRecord hleaf, overlay_of_not_isRecord hleaf]

/-! ### Trees -/

/-- **The laws of laying trees over each other**, as equalities with the order of all keys: the tree
without entries is neutral on either side, laying the same tree over the result again changes
nothing, and the result laid over the lower tree is itself. -/
theorem merge_laws (hbase : ProperlyKeyed (.record base)) (hupper : ProperlyKeyed (.record upper)) :
    merge base [] = base ∧ merge [] upper = upper ∧
      merge (merge base upper) upper = merge base upper ∧
      merge base (merge base upper) = merge base upper := by
  have hagain := overlay_overlay_same hupper (some (.record base))
  have habsorbs := overlay_absorbs hupper (some (.record base)) fun u hu =>
    Option.some.inj hu ▸ hbase
  exact ⟨rfl, mergeInto_nil_left hupper.wellKeyed.keys_apart, Value.record.inj hagain,
    Value.record.inj habsorbs⟩

/-- The laws for two trees of which each has a record where the other has a number. -/
theorem merge_laws_mixed :
    let base : Entries := [(.text "a", .record [(.text "x", .int 1)]), (.text "b", .int 2),
      (.int 7, .record [(.text "y", .null)])]
    let upper : Entries := [(.text "c", .null), (.text "b", .record [(.text "y", .int 3)]),
      (.text "a", .int 4), (.bool true, .int 5), (.int 7, .record [(.text "z", .int 6)])]
    let merged := merge base upper
    ProperlyKeyed (.record base) ∧ ProperlyKeyed (.record upper) ∧
      merged = [(.text "a", .int 4), (.text "b", .record [(.text "y", .int 3)]),
        (.int 7, .record [(.text "y", .null), (.text "z", .int 6)]), (.text "c", .null),
        (.bool true, .int 5)] ∧
      merge [] upper = upper ∧ merge merged upper = merged ∧ merge base merged = merged := by
  intro base upper merged
  have hleaf {v : Value} (h : ∀ entries, v ≠ .record entries) : ProperlyKeyed v := .other h
  have hone (name : Text) {v : Value} (h : ∀ entries, v ≠ .record entries) :
      ProperlyKeyed (.record [(.text name, v)]) :=
    .record (List.pairwise_singleton _ _)
      (List.forall_mem_singleton.2 ((Value.beq_text_iff _ name).2 rfl))
      (List.forall_mem_singleton.2 (.other h))
  have hbase : ProperlyKeyed (.record base) := by
    refine .record (by decide) (by decide) ?_
    simp only [base, List.forall_mem_cons]
    exact ⟨hone "x" (by simp), hleaf (by simp), hone "y" (by simp), List.forall_mem_nil _⟩
  have hupper : ProperlyKeyed (.record upper) := by
    refine .record (by decide) (by decide) ?_
    simp only [upper, List.forall_mem_cons]
    exact ⟨hleaf (by simp), hone "y" (by simp), hleaf (by simp), hleaf (by simp),
      hone "z" (by simp), List.forall_mem_nil _⟩
  obtain ⟨-, hleft, hagain, habsorbs⟩ := merge_laws hbase hupper
  exact ⟨hbase, hupper, rfl, hleft, hagain, habsorbs⟩

end TableClient.Config
