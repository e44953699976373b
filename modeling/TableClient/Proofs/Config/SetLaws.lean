import TableClient.Proofs.Config.Tree

set_option relaxedAutoImplicit false
set_option autoImplicit false

/-!
# Laws of setting values in trees

Setting the value that is found at a path already changes nothing. Two values that are set at paths
apart from each other can be set in either order, and the trees that result cannot be told apart by
lookups; only the order of the keys of their records may differ.

## Main definitions

* `TableClient.Config.LooksAlike`, `TableClient.Config.Indistinct` — what is found looks alike, and
  values that cannot be told apart by lookups.

## Main results

* `TableClient.Config.SetAt.eq_of_lookup?` — setting what is there already.
* `TableClient.Config.SetAt.swap` — setting two values in either order.
* `TableClient.Config.exists_setAt_value_iff` — when a value can be set in a value.
-/

namespace TableClient.Config

variable {tree tree' tree₁ tree₂ : Entries} {p q r : List Text} {v w u : Value}

/-- A path always has a name. -/
lemma pathOf_ne_nil (dotted : Text) : pathOf dotted ≠ [] := by
  have hcut (ps : List CodePoint) : Text.cut (.char '.') ps ≠ [] := by
    cases ps with
    | nil => exact List.cons_ne_nil _ _
    | cons c cs =>
      rw [Text.cut]
      split
      · exact List.cons_ne_nil _ _
      · split <;> exact List.cons_ne_nil _ _
  exact fun h => hcut _ (List.map_eq_nil_iff.1 h)

/-- **A value can be set in a value** exactly when whatever is found on the way is a record, the
value itself included. -/
theorem exists_setAt_value_iff (hp : p ≠ []) (config w : Value) :
    (∃ tree tree', config = .record tree ∧ SetAt tree p w tree') ↔
      ∀ q u, q <+: p → q ≠ p → valueAt? config q = some u → u.IsRecord := by
  constructor
  · rintro ⟨tree, tree', rfl, hset⟩
    exact hset.passable
  · intro h
    obtain ⟨tree, rfl⟩ := h [] config List.nil_prefix hp.symm rfl
    obtain ⟨tree', hset⟩ := (exists_setAt_iff w).2 ⟨hp, h⟩
    exact ⟨tree, tree', rfl, hset⟩

/-- **Setting the value that is there already changes nothing.** -/
theorem SetAt.eq_of_lookup? (h : SetAt tree p v tree') (hv : lookup? tree p = some v) :
    tree' = tree := by
  induction h with
  | last tree name v =>
    have hfound : tree.get? (.text name) = some v := by
      obtain ⟨w, hw, hrest⟩ := Option.bind_eq_some_iff.1 hv
      exact hw.trans hrest
    exact Keyed.insert_of_get?_eq_some hfound
  | @through tree inner inner' name rest v hinner hset ih =>
    obtain ⟨w, hw, hrest⟩ := Option.bind_eq_some_iff.1 hv
    obtain ⟨entries, rfl⟩ := isRecord_of_valueAt? hrest hset.ne_nil
    have hfound : tree.get? (.text name) = some (.record entries) := hw
    rw [hfound] at hinner
    obtain rfl := Option.some.inj hinner
    rw [ih hrest, Keyed.insert_of_get?_eq_some hfound]

/-! ### Two values -/

/-- What is found in two values looks alike: nothing, or the same value, or a record. -/
def LooksAlike : Option Value → Option Value → Prop :=
  Option.Rel fun u u' => u = u' ∨ u.IsRecord ∧ u'.IsRecord

/-- Values that cannot be told apart by lookups: what is found looks alike at each path. What is in
the records that are found is found at longer paths. -/
def Indistinct (v w : Value) : Prop := ∀ p, LooksAlike (valueAt? v p) (valueAt? w p)

/-- What is the same looks alike. -/
lemma LooksAlike.of_eq {x y : Option Value} (h : x = y) : LooksAlike x y := by
  subst h
  cases x with
  | none => exact .none
  | some u => exact .some (.inl rfl)

/-- On the way to values there are records, and they look alike. -/
lemma LooksAlike.on_way (hv : lookup? tree p = some v) (hw : lookup? tree' p = some w)
    (hr : r <+: p) (hne : r ≠ p) : LooksAlike (lookup? tree r) (lookup? tree' r) := by
  have hplace {t : Entries} {a : Value} (ha : lookup? t p = some a) :
      ∃ u, lookup? t r = some u ∧ u.IsRecord := by
    obtain ⟨rest, hrest⟩ := id hr
    have happend := valueAt?_append (.record t) r rest
    rw [hrest] at happend
    obtain ⟨u, hu, -⟩ := Option.bind_eq_some_iff.1 (happend.symm.trans ha)
    exact ⟨u, hu, isRecord_of_isPrefix hr hne ha hu⟩
  obtain ⟨u, hu, hrecord⟩ := hplace hv
  obtain ⟨u', hu', hrecord'⟩ := hplace hw
  rw [hu, hu']
  exact .some (.inr ⟨hrecord, hrecord'⟩)

/-- Paths are apart in either order. -/
lemma Apart.symm (h : Apart p q) : Apart q p := ⟨h.2, h.1⟩

/-- Behind a path that leads to a value, what is found lies in this value. -/
lemma lookup?_behind (hv : lookup? tree p = some v) (r : List Text) :
    lookup? tree (p ++ r) = valueAt? v r := by
  have happend := valueAt?_append (.record tree) p r
  rwa [show valueAt? (.record tree) p = some v from hv, Option.bind_some] at happend

/-- **Two values that are set at paths apart from each other** can be set in either order, and the
results cannot be told apart by lookups.

**Proof sketch.** A path that is looked up lies behind one of the two paths, where the value that
was set there is found in both trees; or on the way to one of them, where there are records in both;
or apart from both, where what was there before is found. -/
theorem SetAt.swap (h : SetAt tree p v tree₁) (h' : SetAt tree₁ q w tree₂) (hapart : Apart p q) :
    ∃ tree₃ tree₄, SetAt tree q w tree₃ ∧ SetAt tree₃ p v tree₄ ∧
      Indistinct (.record tree₂) (.record tree₄) := by
  obtain ⟨tree₃, hq⟩ :=
    (exists_setAt_iff w).2 ⟨h'.ne_nil, (h.passable_iff hapart).1 h'.passable⟩
  obtain ⟨tree₄, hp⟩ :=
    (exists_setAt_iff v).2 ⟨h.ne_nil, (hq.passable_iff hapart.symm).2 h.passable⟩
  have hp₂ : lookup? tree₂ p = some v := (h'.lookup?_of_apart hapart.symm).trans h.lookup?_self
  have hq₄ : lookup? tree₄ q = some w := (hp.lookup?_of_apart hapart).trans hq.lookup?_self
  refine ⟨tree₃, tree₄, hq, hp, fun r => ?_⟩
  change LooksAlike (lookup? tree₂ r) (lookup? tree₄ r)
  by_cases hpr : p <+: r
  · obtain ⟨rest, rfl⟩ := hpr
    exact .of_eq ((lookup?_behind hp₂ rest).trans (lookup?_behind hp.lookup?_self rest).symm)
  by_cases hqr : q <+: r
  · obtain ⟨rest, rfl⟩ := hqr
    exact .of_eq ((lookup?_behind h'.lookup?_self rest).trans (lookup?_behind hq₄ rest).symm)
  by_cases hrp : r <+: p
  · exact .on_way hp₂ hp.lookup?_self hrp fun heq => hpr (heq ▸ List.prefix_refl r)
  by_cases hrq : r <+: q
  · exact .on_way h'.lookup?_self hq₄ hrq fun heq => hqr (heq ▸ List.prefix_refl r)
  have hleft : lookup? tree₂ r = lookup? tree r :=
    (h'.lookup?_of_apart ⟨hqr, hrq⟩).trans (h.lookup?_of_apart ⟨hpr, hrp⟩)
  have hright : lookup? tree₄ r = lookup? tree r :=
    (hp.lookup?_of_apart ⟨hpr, hrp⟩).trans (hq.lookup?_of_apart ⟨hqr, hrq⟩)
  exact .of_eq (hleft.trans hright.symm)

end TableClient.Config
