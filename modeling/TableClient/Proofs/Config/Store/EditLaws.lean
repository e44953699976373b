import TableClient.Proofs.Config.SetLaws
import TableClient.Proofs.Config.Store.Setting

set_option relaxedAutoImplicit false
set_option autoImplicit false

/-!
# Laws of setting and getting

Setting a value in place and getting values by their paths, for a tree in a store whose records are
used at one place each. A value can be set unless the path leads through something else than a
record. If it cannot, the tree is as before. If it can, it is found, and nothing else changes but
what lies on its path. Setting what is there already changes nothing, and two values can be set in
either order.

## Main results

* `TableClient.Config.Store.run_setAt_cases` — the two outcomes of setting.
* `TableClient.Config.Store.run_setAt_of_follow` — setting what a path leads to already.
* `TableClient.Config.Store.setting_laws` — all of it.
-/

namespace TableClient.Config.Store

variable {s s' : Store} {root slot other : Slot} {config v w : Value} {tree : Entries}
  {R L R' L' R'' L'' : List Address} {p : List Text}

/-! ### The outcomes of setting -/

/-- **Setting a value succeeds or is refused**: it is set as in the tree, or the path cannot be
followed, and no record has been changed. -/
theorem run_setAt_cases (h : Holds s root config R L) (hslot : Holds s slot v R' L')
    (hapart : ∀ b, R.count b + L.count b + R'.count b + L'.count b ≤ 1) (hp : p ≠ []) :
    (∃ tree tree' s', config = .record tree ∧ SetAt tree p v tree' ∧
      (setAt root p slot).run s = (.ok (), s') ∧ Edited s s' root (.record tree') R L R' L') ∨
    ∃ s', (¬ ∃ tree tree', config = .record tree ∧ SetAt tree p v tree') ∧
      (setAt root p slot).run s = (.error .unusableValue, s') ∧ s.Grows s' := by
  by_cases hset : ∃ tree tree', config = .record tree ∧ SetAt tree p v tree'
  · obtain ⟨tree, tree', rfl, hset⟩ := hset
    obtain ⟨s', hrun, hedited⟩ := exists_run_setAt hset h hslot hapart
    exact .inl ⟨tree, tree', s', rfl, hset, hrun, hedited⟩
  · have hnot : ∀ entries w entries', config = .record entries → ¬ SetAt entries p w entries' := by
      intro entries w entries' hconfig hw
      obtain ⟨tree', hset'⟩ := (exists_setAt_iff v).2 ((exists_setAt_iff w).1 ⟨entries', hw⟩)
      exact hset ⟨entries, tree', hconfig, hset'⟩
    obtain ⟨s', hrun, hgrows⟩ := exists_run_setAt_refused h hp slot hnot
    exact .inr ⟨s', hset, hrun, hgrows⟩

/-- What is held beside a tree that is edited stays held, and apart from what the tree uses then. -/
lemma Edited.beside (h : Edited s s' root (.record tree) R L R' L')
    (hroot : Holds s root config R L) (hslot : Holds s slot v R' L')
    (hother : Holds s other w R'' L'')
    (hone : ∀ b, R.count b + L.count b + R'.count b + L'.count b + R''.count b + L''.count b ≤ 1) :
    Holds s' other w R'' L'' ∧ ∃ R₂ L₂, Holds s' root (.record tree) R₂ L₂ ∧
      ∀ b, R₂.count b + L₂.count b + R''.count b + L''.count b ≤ 1 := by
  obtain ⟨hlength, hothers, R₂, L₂, hafter, hcount⟩ := h
  refine ⟨hother.frame fun b hb => hothers b (hother.lt_length b hb) fun hbR => ?_, R₂, L₂, hafter,
    ?_⟩
  · have hused := List.count_pos_iff.2 hb
    have hused' := List.count_pos_iff.2 hbR
    have hle := hone b
    grind
  · intro b
    have hthere (hused : 0 < R.count b + L.count b + R'.count b + L'.count b + R''.count b +
        L''.count b) : b < s.records.length := by
      have hlt := hroot.lt_length b
      have hlt' := hslot.lt_length b
      have hlt'' := hother.lt_length b
      grind
    have hboth := add_le_one_of_fresh (hone b) hthere (Nat.le_refl (fresh s s' b))
    have hbound := hcount b
    omega

/-! ### Setting what is there -/

/-- An entry that is set to what it holds stays. -/
lemma write_of_there {a : Nat} {slots : Slots} {name : Text} (h : s.records[a]? = some slots)
    (hslot : Keyed.get? slots (.text name) = some slot) : s.write a name slot = s := by
  refine congrArg Store.mk (List.ext_getElem? fun b => ?_)
  by_cases hb : b = a
  · subst hb
    exact (getElem?_write_self h name slot).trans (by rw [Keyed.insert_of_get?_eq_some hslot, h])
  · exact getElem?_write_of_ne hb s name slot

/-- **Setting what a path leads to already** leaves the store as it is. -/
theorem run_setAt_of_follow (hp : p ≠ []) (h : s.follow root p = .ok slot) :
    (setAt root p slot).run s = (.ok (), s) := by
  induction p generalizing root with
  | nil => exact absurd rfl hp
  | cons name rest ih =>
    rw [follow] at h
    obtain ⟨next, hitem, hrest⟩ := bind_eq_ok_iff.1 h
    obtain ⟨a, slots, rfl, hfound, hname⟩ := item_eq_ok_iff.1 hitem
    by_cases hnil : rest = []
    · subst hnil
      obtain rfl := Except.ok.inj hrest
      exact (run_setItem a name next s).trans (by rw [write_of_there hfound hname])
    · rw [setAt_cons _ _ hnil, run_bind, run_enter_of_found hfound hname]
      exact ih hnil hrest

/-! ### The laws -/

/-- Two values that are set at paths apart from each other are set in either order, and the trees
cannot be told apart. -/
lemma run_setAt_swap {q : List Text} {s₁ s₂ : Store} (hroot : Holds s root config R L)
    (hslot : Holds s slot v R' L') (hother : Holds s other w R'' L'')
    (hone : ∀ b, R.count b + L.count b + R'.count b + L'.count b + R''.count b + L''.count b ≤ 1)
    (hp : p ≠ []) (hq : q ≠ []) (hapart : Apart p q)
    (h : (setAt root p slot).run s = (.ok (), s₁))
    (h' : (setAt root q other).run s₁ = (.ok (), s₂)) :
    ∃ s₃ s₄, (setAt root q other).run s = (.ok (), s₃) ∧ (setAt root p slot).run s₃ = (.ok (), s₄) ∧
      Indistinct (s₂.read root) (s₄.read root) := by
  have htwo : ∀ b, R.count b + L.count b + R'.count b + L'.count b ≤ 1 := fun b => by
    have := hone b
    omega
  rcases run_setAt_cases hroot hslot htwo hp with
    ⟨tree, tree₁, t₁, rfl, hset, hrun, hedited⟩ | ⟨t₁, -, hrun, -⟩
  · cases hrun.symm.trans h
    obtain ⟨hother₁, R₁, L₁, hroot₁, hone₁⟩ := hedited.beside hroot hslot hother hone
    rcases run_setAt_cases hroot₁ hother₁ hone₁ hq with
      ⟨_, tree₂, t₂, hsame, hset', hrun', hedited'⟩ | ⟨t₂, -, hrun', -⟩
    · cases hrun'.symm.trans h'
      obtain rfl := Value.record.inj hsame
      obtain ⟨tree₃, tree₄, hset₃, hset₄, halike⟩ := hset.swap hset' hapart
      obtain ⟨s₃, hrun₃, hedited₃⟩ := exists_run_setAt hset₃ hroot hother fun b => by
        have := hone b
        omega
      obtain ⟨hslot₃, R₃, L₃, hroot₃, hone₃⟩ := hedited₃.beside hroot hother hslot fun b => by
        have := hone b
        omega
      obtain ⟨s₄, hrun₄, hedited₄⟩ := exists_run_setAt hset₄ hroot₃ hslot₃ hone₃
      obtain ⟨_, _, hroot₂, -⟩ := hedited'.holds
      obtain ⟨_, _, hroot₄, -⟩ := hedited₄.holds
      refine ⟨s₃, s₄, hrun₃, hrun₄, ?_⟩
      rw [hroot₂.read_eq, hroot₄.read_eq]
      exact halike
    · cases hrun'.symm.trans h'
  · cases hrun.symm.trans h

/-- **The laws of setting and getting**, for a tree that a store holds beside two values, at any
paths.

A value can be set exactly when whatever is found on the way to it is a record, the tree itself
included. If it cannot be set, it is refused as a value that cannot be used as asked, every record
is as before, and so is the tree at every depth. If it is set, it is found at its path, whatever the
default, at each path apart from it the same is found as before, and the tree is as before if the
value was there already. Setting what the path leads to already, and not a value of its own, leaves
the whole store as it is. When two values are set, one after the other and at paths apart from each
other, they are set in the other order as well, and no lookup tells the trees apart. -/
theorem setting_laws (h : s.HoldsApart [(root, config), (slot, v), (other, w)]) (p q : Text) :
    (((setAt root (pathOf p) slot).run s).1 = .ok () ↔
      ∀ r u, r <+: pathOf p → r ≠ pathOf p → valueAt? config r = some u → u.IsRecord) ∧
    (∀ f s', (setAt root (pathOf p) slot).run s = (.error f, s') →
      f = .unusableValue ∧ s.Grows s' ∧ s'.read root = config) ∧
    (∀ s', (setAt root (pathOf p) slot).run s = (.ok (), s') →
      (∀ d, s'.getAt root (pathOf p) d = v) ∧
      (∀ r d, Apart (pathOf p) (pathOf r) →
        s'.getAt root (pathOf r) d = s.getAt root (pathOf r) d) ∧
      (valueAt? config (pathOf p) = some v → s'.read root = config)) ∧
    (∀ there, s.follow root (pathOf p) = .ok there →
      (setAt root (pathOf p) there).run s = (.ok (), s)) ∧
    ∀ s₁ s₂, Apart (pathOf p) (pathOf q) → (setAt root (pathOf p) slot).run s = (.ok (), s₁) →
      (setAt root (pathOf q) other).run s₁ = (.ok (), s₂) →
      ∃ s₃ s₄, (setAt root (pathOf q) other).run s = (.ok (), s₃) ∧
        (setAt root (pathOf p) slot).run s₃ = (.ok (), s₄) ∧
        Indistinct (s₂.read root) (s₄.read root) := by
  have hp := pathOf_ne_nil p
  obtain ⟨F, hF, hnodup⟩ := h
  cases hF with
  | @cons _ _ _ _ R L _ hroot hF =>
  cases hF with
  | @cons _ _ _ _ R' L' _ hslot hF =>
  cases hF with
  | @cons _ _ _ _ R'' L'' _ hother hF =>
  cases hF
  have hone (b : Nat) :
      R.count b + L.count b + R'.count b + L'.count b + R''.count b + L''.count b ≤ 1 := by
    have hle := List.nodup_iff_count_le_one.1 hnodup b
    grind
  have htwo : ∀ b, R.count b + L.count b + R'.count b + L'.count b ≤ 1 := fun b => by
    have := hone b
    omega
  refine ⟨?_, ?_, ?_, fun there => run_setAt_of_follow hp, fun s₁ s₂ hapart hfirst hsecond =>
    run_setAt_swap hroot hslot hother hone hp (pathOf_ne_nil q) hapart hfirst hsecond⟩
  · rw [← exists_setAt_value_iff hp config v]
    rcases run_setAt_cases hroot hslot htwo hp with
      ⟨tree, tree', s', hconfig, hset, hrun, -⟩ | ⟨s', hnot, hrun, -⟩
    · rw [hrun]
      exact iff_of_true rfl ⟨tree, tree', hconfig, hset⟩
    · rw [hrun]
      exact iff_of_false (fun h => nomatch h) hnot
  · intro f s' hrun
    rcases run_setAt_cases hroot hslot htwo hp with
      ⟨tree, tree', s₁, -, -, hrun', -⟩ | ⟨s₁, -, hrun', hgrows⟩
    · cases hrun'.symm.trans hrun
    · cases hrun'.symm.trans hrun
      exact ⟨rfl, hgrows, (hroot.grow hgrows).read_eq⟩
  · intro s' hrun
    rcases run_setAt_cases hroot hslot htwo hp with
      ⟨tree, tree', s₁, rfl, hset, hrun', hedited⟩ | ⟨s₁, -, hrun', -⟩
    · cases hrun'.symm.trans hrun
      obtain ⟨R₂, L₂, hafter, -⟩ := hedited.holds
      refine ⟨fun d => ?_, fun r d hapart => ?_, fun hthere => ?_⟩
      · have hself : valueAt? (.record tree') (pathOf p) = some v := hset.lookup?_self
        rw [hafter.getAt_eq, hself]
        rfl
      · have hsame : valueAt? (.record tree') (pathOf r) = valueAt? (.record tree) (pathOf r) :=
          hset.lookup?_of_apart hapart
        rw [hafter.getAt_eq, hroot.getAt_eq, hsame]
      · rw [hafter.read_eq, hset.eq_of_lookup? hthere]
    · cases hrun'.symm.trans hrun

/-- A value is set in a record that is missing, which leaves the entry beside it, and is refused in
a list, though the name is one of its items. -/
theorem setting_laws_missing_record :
    ∃ (s s' : Store) (root slot other : Slot),
      s.HoldsApart [(root, .record [(.text "a", .record [(.text "x", .int 1)]),
        (.text "l", .list [.text "b"])]), (slot, .int 2), (other, .null)] ∧
      (setAt root (pathOf "a.y.z") slot).run s = (.ok (), s') ∧
      (∀ d, s'.getAt root (pathOf "a.y.z") d = .int 2) ∧
      (∀ d, s'.getAt root (pathOf "a.x") d = .int 1) ∧
      ((setAt root (pathOf "l.b.z") slot).run s).1 ≠ .ok () := by
  have hheld := (((HoldsApart.nil .empty).load .null).load (.int 2)).load
    (.record [(.text "a", .record [(.text "x", .int 1)]), (.text "l", .list [.text "b"])])
  obtain ⟨-, -, hset, -⟩ := setting_laws hheld "a.y.z" "b"
  obtain ⟨hfound, hbeside, -⟩ := hset _ rfl
  obtain ⟨hable, -⟩ := setting_laws hheld "l.b.z" "b"
  refine ⟨_, _, _, _, _, hheld, rfl, hfound, fun d => ?_, fun hrun => ?_⟩
  · exact (hbeside "a.x" d ⟨by decide, by decide⟩).trans rfl
  · obtain ⟨entries, hlist⟩ := hable.1 hrun (pathOf "l") (.list [.text "b"]) ⟨pathOf "b.z", rfl⟩
      (by decide) rfl
    cases hlist

end TableClient.Config.Store
