import TableClient.Proofs.Config.Store.Placing

set_option relaxedAutoImplicit false
set_option autoImplicit false

/-!
# Setting in place

Setting a value at a path of a tree in a store, step by step and in place, does what setting it in
the tree itself does, if each record is used at one place only. When the path cannot be followed, no
record has been changed; a record may have been added that nothing leads to.

## Main results

* `TableClient.Config.Store.HoldsEntries.focus`, `TableClient.Config.Store.HoldsEntries.insert` —
  one entry of a record, and what becomes of the others when it is replaced.
* `TableClient.Config.Store.exists_run_setAt` — setting a value at a path that can be followed.
* `TableClient.Config.Store.exists_run_setAt_refused` — a path that cannot be followed.
* `TableClient.Config.Store.Holds.getAt_eq` — the value at a path.
-/

namespace TableClient.Config.Store

variable {s s' : Store} {current slot slot' : Slot} {v w : Value} {slots : Slots}
  {entries entries' : Entries} {R L R' L' : List Address} {a : Nat} {key : Value} {name : Text}
  {p : List Text}

/-! ### One entry of a record -/

/-- Entries that are held have the keys of those that they hold. -/
lemma HoldsEntries.keys_eq (h : HoldsEntries s slots entries R L) :
    Keyed.keys slots = Keyed.keys entries := by
  induction slots generalizing entries R L with
  | nil =>
    cases h
    rfl
  | cons e slots ih =>
    cases h with
    | cons _ hrest => exact congrArg _ (ih hrest)

/-- There is an entry of a key when there is one in the value. -/
lemma HoldsEntries.get?_eq_none_iff (h : HoldsEntries s slots entries R L) :
    Keyed.get? slots key = none ↔ Keyed.get? entries key = none := by
  have hhas : Keyed.has slots key = Keyed.has entries key := by
    rw [Keyed.has_eq_any, Keyed.has_eq_any, h.keys_eq]
  unfold Keyed.has at hhas
  rw [← Option.not_isSome_iff_eq_none, ← Option.not_isSome_iff_eq_none, hhas]

/-- **One entry of a record**: it holds what is found under its key, and when it is replaced by one
that holds another value, the record holds the entries with this value set, in any store that leaves
the records which the other entries use. -/
theorem HoldsEntries.focus (h : HoldsEntries s slots entries R L)
    (hslot : Keyed.get? slots key = some slot) :
    ∃ v R₁ L₁, Keyed.get? entries key = some v ∧ Holds s slot v R₁ L₁ ∧
      (∀ a, R₁.count a ≤ R.count a ∧ L₁.count a ≤ L.count a) ∧
      ∀ {s' : Store} {slot' : Slot} {v' : Value} {R' L' : List Address}, Holds s' slot' v' R' L' →
        (∀ a, R₁.count a + L₁.count a < R.count a + L.count a →
          s'.records[a]? = s.records[a]?) →
        ∃ R₂ L₂,
          HoldsEntries s' (Keyed.insert slots key slot') (Keyed.insert entries key v') R₂ L₂ ∧
          ∀ a, R₂.count a + R₁.count a = R.count a + R'.count a ∧
            L₂.count a + L₁.count a = L.count a + L'.count a := by
  induction slots generalizing entries R L with
  | nil => cases hslot
  | cons e slots ih =>
    cases h with
    | @cons first firstSlot firstValue _ rest R₁ L₁ R₃ L₃ hfirst hrest =>
      rw [Keyed.get?] at hslot
      by_cases hkey : (first == key) = true
      · rw [if_pos hkey] at hslot
        obtain rfl := Option.some.inj hslot
        refine ⟨firstValue, R₁, L₁, if_pos hkey, hfirst, fun a => by grind, ?_⟩
        intro s' slot' v' R' L' hv' hsame
        refine ⟨R' ++ R₃, L' ++ L₃, ?_, fun a => by grind⟩
        rw [Keyed.insert, Keyed.insert, if_pos hkey, if_pos hkey]
        refine .cons hv' (hrest.frame fun a ha => hsame a ?_)
        have hused := List.count_pos_iff.2 ha
        grind
      · rw [if_neg hkey] at hslot
        obtain ⟨v, R₂, L₂, hv, hheld, hle, hreplace⟩ := ih hrest hslot
        refine ⟨v, R₂, L₂, ?_, hheld, fun a => by grind, ?_⟩
        · rw [Keyed.get?, if_neg hkey, hv]
        · intro s' slot' v' R' L' hv' hsame
          obtain ⟨R₄, L₄, hentries, hcount⟩ := hreplace hv' fun a ha => hsame a (by grind)
          refine ⟨R₁ ++ R₄, L₁ ++ L₄, ?_, fun a => by grind⟩
          rw [Keyed.insert, Keyed.insert, if_neg hkey, if_neg hkey]
          refine .cons (hfirst.frame fun a ha => hsame a ?_) hentries
          have hused := List.count_pos_iff.2 ha
          grind

/-- An entry of a new key stands behind the others. -/
lemma HoldsEntries.insert_new (h : HoldsEntries s slots entries R L)
    (hnew : Keyed.get? slots key = none) (hv : Holds s slot v R' L') :
    HoldsEntries s (Keyed.insert slots key slot) (Keyed.insert entries key v)
      (R ++ R') (L ++ L') := by
  induction slots generalizing entries R L with
  | nil =>
    cases h
    have hone : HoldsEntries s [(key, slot)] [(key, v)] (R' ++ []) (L' ++ []) := .cons hv .nil
    rwa [List.append_nil, List.append_nil] at hone
  | cons e slots ih =>
    cases h with
    | @cons first _ _ _ _ _ _ _ _ hfirst hrest =>
      rw [Keyed.get?] at hnew
      split at hnew
      · cases hnew
      · rename_i hkey
        rw [Keyed.insert, Keyed.insert, if_neg hkey, if_neg hkey, List.append_assoc,
          List.append_assoc]
        exact .cons hfirst (ih hrest hnew)

/-- **A record in which an entry is set** holds the entries with its value set, and uses no more
than both did. -/
theorem HoldsEntries.insert (h : HoldsEntries s slots entries R L) (key : Value)
    (hv : Holds s slot v R' L') :
    ∃ R₂ L₂, HoldsEntries s (Keyed.insert slots key slot) (Keyed.insert entries key v) R₂ L₂ ∧
      ∀ a, R₂.count a ≤ R.count a + R'.count a ∧ L₂.count a ≤ L.count a + L'.count a := by
  cases hfound : Keyed.get? slots key with
  | none => exact ⟨_, _, h.insert_new hfound hv, fun a => by grind⟩
  | some old =>
    obtain ⟨_, R₁, L₁, -, -, -, hreplace⟩ := h.focus hfound
    obtain ⟨R₂, L₂, hentries, hcount⟩ := hreplace hv fun a _ => rfl
    exact ⟨R₂, L₂, hentries, fun a => by grind⟩

/-! ### Writing into a record -/

/-- The store in which an entry of a record is set. -/
def write (s : Store) (a : Address) (name : Text) (slot : Slot) : Store :=
  ⟨s.records.modify a fun entries => Keyed.insert entries (.text name) slot⟩

/-- No record is added. -/
@[simp]
lemma length_write (s : Store) (a : Address) (name : Text) (slot : Slot) :
    (s.write a name slot).records.length = s.records.length := List.length_modify ..

/-- So the same records are new afterwards. -/
lemma fresh_write (s s' : Store) (a : Address) (name : Text) (slot : Slot) (b : Nat) :
    fresh (s.write a name slot) s' b = fresh s s' b := by
  rw [fresh, fresh, length_write]

/-- The other records stay. -/
lemma getElem?_write_of_ne {b : Nat} (h : b ≠ a) (s : Store) (name : Text) (slot : Slot) :
    (s.write a name slot).records[b]? = s.records[b]? := by
  simp [write, Ne.symm h]

/-- The entry of the record is set. -/
lemma getElem?_write_self (h : s.records[a]? = some slots) (name : Text) (slot : Slot) :
    (s.write a name slot).records[a]? = some (Keyed.insert slots (.text name) slot) := by
  simp [write, h]

/-- An entry of a record is set in place. -/
lemma run_setItem (a : Address) (name : Text) (slot : Slot) (s : Store) :
    (setItem (.ref a) name slot).run s = (.ok (), s.write a name slot) := rfl

/-- Nothing else than a record takes an entry. -/
lemma run_setItem_refused (h : ∀ a, current ≠ .ref a) (name : Text) (slot : Slot) (s : Store) :
    (setItem current name slot).run s = (.error .unusableValue, s) := by
  cases current with
  | ref a => exact absurd rfl (h a)
  | _ => rfl

/-! ### Going on to what is found under a name -/

/-- What going on does: nothing to the store, unless there is nothing under the name. -/
lemma run_enter (current : Slot) (name : Text) (s : Store) :
    (enter current name).run s =
      match s.contains current name with
      | .error f => (.error f, s)
      | .ok true => (s.item current name, s)
      | .ok false =>
        match (setItem current name (.ref s.records.length)).run (s.withRecord []) with
        | (.ok _, s) => (s.item current name, s)
        | (.error f, s) => (.error f, s) := by
  have hlift {α : Type} (x : Except Fault α) (s : Store) :
      (liftExcept x : Change α).run s = (x, s) := by
    cases x <;> rfl
  have hstore (s : Store) : (getThe Store : Change Store).run s = (.ok s, s) := rfl
  have halloc (s : Store) : (liftM (alloc []) : Change Slot).run s =
      (.ok (.ref s.records.length), s.withRecord []) := rfl
  unfold enter
  simp only [run_bind, hstore, hlift]
  cases s.contains current name with
  | error f => rfl
  | ok found =>
    cases found with
    | true => simp only [if_true, run_bind, hstore, hlift]
    | false =>
      simp only [Bool.false_eq_true, if_false, run_bind, hstore, hlift, halloc]
      rcases (setItem current name _).run _ with ⟨_ | _, _⟩ <;> rfl

/-- What is in a record is found. -/
lemma item_eq (h : s.entries? current = some slots) (name : Text) :
    s.item current name = (Keyed.get? slots (.text name)).elim (.error .noSuchItem) .ok := by
  rw [item, h]

/-- Something is found in a record that has it. -/
lemma item_eq_ok_iff :
    s.item current name = .ok slot ↔ ∃ a slots, current = .ref a ∧ s.records[a]? = some slots ∧
      Keyed.get? slots (.text name) = some slot := by
  constructor
  · intro h
    cases current with
    | ref a =>
      cases hfound : s.records[a]? with
      | none =>
        rw [item, show s.entries? (.ref a) = none from hfound] at h
        cases h
      | some slots =>
        rw [item_eq (show s.entries? (.ref a) = some slots from hfound)] at h
        cases hname : Keyed.get? slots (.text name) with
        | none =>
          rw [hname] at h
          cases h
        | some next =>
          rw [hname] at h
          cases h
          exact ⟨a, slots, rfl, hfound, hname⟩
    | _ => cases h
  · rintro ⟨a, slots, rfl, hfound, hname⟩
    rw [item_eq (show s.entries? (.ref a) = some slots from hfound), hname]
    rfl

/-- It can be asked what is in a record. -/
lemma contains_eq (h : s.entries? current = some slots) (name : Text) :
    s.contains current name = .ok (Keyed.has slots (.text name)) := by
  unfold contains
  rw [h]

/-- A record with something under a name is gone through to it. -/
lemma run_enter_of_found (h : s.records[a]? = some slots)
    (hfound : Keyed.get? slots (.text name) = some slot) :
    (enter (.ref a) name).run s = (.ok slot, s) := by
  have hentries : s.entries? (.ref a) = some slots := h
  rw [run_enter, contains_eq hentries, item_eq hentries, Keyed.has, hfound]
  rfl

/-- A record with nothing under a name gets a record there. -/
lemma run_enter_of_missing (h : s.records[a]? = some slots)
    (hmissing : Keyed.get? slots (.text name) = none) :
    (enter (.ref a) name).run s =
      (.ok (.ref s.records.length), (s.withRecord []).write a name (.ref s.records.length)) := by
  have hentries : s.entries? (.ref a) = some slots := h
  have hthere : (s.withRecord []).records[a]? = some slots :=
    ((s.grows_withRecord []).getElem? (List.getElem?_eq_some_iff.1 h).1).trans h
  have hwritten : ((s.withRecord []).write a name (.ref s.records.length)).entries? (.ref a) =
      some (Keyed.insert slots (.text name) (.ref s.records.length)) :=
    getElem?_write_self hthere name _
  rw [run_enter, contains_eq hentries, Keyed.has, hmissing]
  refine congrArg (·, _) ((item_eq hwritten name).trans ?_)
  rw [Keyed.get?_insert_self slots _ ((Value.beq_text_iff _ name).2 rfl)]
  rfl

/-- Nothing else than a record is gone through, and no record is changed. -/
lemma exists_run_enter_refused (h : ∀ a, current ≠ .ref a) (name : Text) (s : Store) :
    ∃ s', (enter current name).run s = (.error .unusableValue, s') ∧ s.Grows s' := by
  have hnone : s.entries? current = none := by
    cases current with
    | ref a => exact absurd rfl (h a)
    | _ => rfl
  have hitem : s.item current name = .error .unusableValue := by rw [item, hnone]
  have hasked : s.contains current name = .error .unusableValue ∨
      ∃ found, s.contains current name = .ok found := by
    unfold contains
    rw [hnone]
    split <;> simp
  rw [run_enter]
  rcases hasked with hasked | ⟨found, hasked⟩
  · exact ⟨s, by rw [hasked], .refl s⟩
  · rw [hasked]
    cases found with
    | true => exact ⟨s, congrArg (·, s) hitem, .refl s⟩
    | false =>
      refine ⟨s.withRecord [], ?_, s.grows_withRecord []⟩
      rw [run_setItem_refused h]

/-! ### Setting at a path -/

/-- Setting beyond the first name of a path. -/
lemma setAt_cons (current : Slot) (name : Text) (hp : p ≠ []) (slot : Slot) :
    setAt current (name :: p) slot = enter current name >>= fun next => setAt next p slot := by
  cases p with
  | nil => exact absurd rfl hp
  | cons next rest => rfl

/-- What setting a value leaves behind: a slot that holds a new value, by records that were used
before or are new, in a store in which no record is changed but some of those that led to the old
value. -/
structure Edited (s s' : Store) (root : Slot) (v : Value) (R L R' L' : List Address) : Prop where
  length_le : s.records.length ≤ s'.records.length
  others : ∀ a, a < s.records.length → a ∉ R → s'.records[a]? = s.records[a]?
  holds : ∃ R₂ L₂, Holds s' root v R₂ L₂ ∧ ∀ a,
    R₂.count a ≤ R.count a + R'.count a + fresh s s' a ∧ L₂.count a ≤ L.count a + L'.count a

/-- A value that is set in a record of a store is held there. -/
lemma edited_write (h : Holds s (.ref a) (.record entries) R L) (hslot : Holds s slot w R' L')
    (hapart : ∀ b, R.count b + L.count b + R'.count b + L'.count b ≤ 1) (name : Text) :
    Edited s (s.write a name slot) (.ref a) (.record (Keyed.insert entries (.text name) w))
      R L R' L' := by
  cases h with
  | @record _ slots _ R L hfound hentries =>
    -- the record is used nowhere else, so that everything else is held as before
    have hsame : ∀ b, b ∈ R ++ L ∨ b ∈ R' ++ L' →
        (s.write a name slot).records[b]? = s.records[b]? := by
      intro b hb
      refine getElem?_write_of_ne ?_ s name slot
      rintro rfl
      have hself := hapart b
      have hused : 0 < (R ++ L).count b ∨ 0 < (R' ++ L').count b :=
        hb.imp List.count_pos_iff.2 List.count_pos_iff.2
      grind
    obtain ⟨R₂, L₂, hset, hcount⟩ := (hentries.frame fun b hb => hsame b (.inl hb)).insert
      (.text name) (hslot.frame fun b hb => hsame b (.inr hb))
    refine ⟨Nat.le_of_eq (s.length_write a name slot).symm,
      fun b _ hb => getElem?_write_of_ne ?_ s name slot, ?_⟩
    · rintro rfl
      exact hb List.mem_cons_self
    · exact ⟨a :: R₂, L₂, .record (getElem?_write_self hfound name slot) hset, fun b => by grind⟩

/-- **A record that lies in another one** is entered by its name. When it is edited, the outer one
is edited, as nothing beside the inner record uses a record that is used inside it. -/
theorem exists_enter_inside {inner : Entries} (h : Holds s (.ref a) (.record entries) R L)
    (hapart : ∀ b, R.count b + L.count b ≤ 1)
    (hinner : entries.get? (.text name) = some (.record inner)) :
    ∃ b R₁ L₁, (enter (.ref a) name).run s = (.ok (.ref b), s) ∧
      Holds s (.ref b) (.record inner) R₁ L₁ ∧
      (∀ c, R₁.count c ≤ R.count c ∧ L₁.count c ≤ L.count c) ∧
      ∀ s' inner', Edited s s' (.ref b) (.record inner') R₁ L₁ R' L' →
        Edited s s' (.ref a) (.record (entries.insert (.text name) (.record inner')))
          R L R' L' := by
  cases h with
  | @record _ slots _ R L hfound hentries =>
    have ha : a < s.records.length := (List.getElem?_eq_some_iff.1 hfound).1
    cases hname : Keyed.get? slots (.text name) with
    | none => cases (hentries.get?_eq_none_iff.1 hname).symm.trans hinner
    | some next =>
      obtain ⟨u, R₁, L₁, hu, hheld, hle, hreplace⟩ := hentries.focus hname
      obtain rfl := Option.some.inj (hu.symm.trans hinner)
      obtain ⟨b, rfl⟩ := hheld.exists_ref
      refine ⟨b, R₁, L₁, run_enter_of_found hfound hname, hheld, fun c => by grind, ?_⟩
      rintro s' inner' ⟨hlength, hothers, R₂, L₂, hv, hcount⟩
      have hsame : ∀ c, c < s.records.length → R₁.count c = 0 →
          s'.records[c]? = s.records[c]? := fun c hc hunused =>
        hothers c hc (List.count_eq_zero.1 hunused)
      have hlt : ∀ c, 0 < R.count c + L.count c → c < s.records.length := fun c hc =>
        hentries.lt_length c (List.count_pos_iff.1 (by grind))
      obtain ⟨R₃, L₃, hset, hcount'⟩ := hreplace hv fun c hc =>
        hsame c (hlt c (by omega)) (by grind)
      rw [Keyed.insert_of_get?_eq_some hname] at hset
      refine ⟨hlength, fun c hc hunused => hsame c hc (by grind), a :: R₃, L₃, ?_,
        fun c => by grind⟩
      exact .record ((hsame a ha (by grind)).trans hfound) hset

/-- **A record that is missing** is added and entered. It is empty, and when it is edited, the outer
one is edited. -/
theorem exists_enter_missing (h : Holds s (.ref a) (.record entries) R L)
    (hslot : Holds s slot w R' L')
    (hapart : ∀ b, R.count b + L.count b + R'.count b + L'.count b ≤ 1)
    (hmissing : entries.get? (.text name) = none) :
    ∃ b s₁, (enter (.ref a) name).run s = (.ok (.ref b), s₁) ∧
      Holds s₁ (.ref b) (.record []) [b] [] ∧ Holds s₁ slot w R' L' ∧
      R'.count b + L'.count b = 0 ∧
      ∀ s' inner', Edited s₁ s' (.ref b) (.record inner') [b] [] R' L' →
        Edited s s' (.ref a) (.record (entries.insert (.text name) (.record inner')))
          R L R' L' := by
  cases h with
  | @record _ slots _ R L hfound hentries =>
    have ha : a < s.records.length := (List.getElem?_eq_some_iff.1 hfound).1
    have hname : Keyed.get? slots (.text name) = none := hentries.get?_eq_none_iff.2 hmissing
    have hgrows := s.grows_withRecord []
    -- nothing but the record itself is changed by entering the missing one
    have hsame : ∀ c, c < s.records.length → c ≠ a →
        ((s.withRecord []).write a name (.ref s.records.length)).records[c]? = s.records[c]? :=
      fun c hc hne => (getElem?_write_of_ne hne _ _ _).trans (hgrows.getElem? hc)
    refine ⟨_, _, run_enter_of_missing hfound hname, ?_, ?_, ?_, ?_⟩
    · exact .record ((getElem?_write_of_ne (Nat.ne_of_gt ha) _ _ _).trans
        (s.getElem?_withRecord [])) .nil
    · refine hslot.frame fun c hc => hsame c (hslot.lt_length c hc) ?_
      rintro rfl
      have hused := List.count_pos_iff.2 hc
      have hself := hapart c
      grind
    · have hlt := hslot.lt_length s.records.length
      grind
    · rintro s' inner' ⟨hlength, hothers, R₂, L₂, hv, hcount⟩
      rw [length_write] at hlength hothers
      have hlast := s.length_withRecord []
      have hframe : ∀ c, c < s.records.length → c ≠ a → s'.records[c]? = s.records[c]? :=
        fun c hc hne => (hothers c (by grind) (by grind)).trans (hsame c hc hne)
      have hrecord := (hothers a (by grind) (by grind)).trans
        (getElem?_write_self ((hgrows.getElem? ha).trans hfound) name (.ref s.records.length))
      have hbeside : HoldsEntries s' slots entries R L := hentries.frame fun c hc => by
        have hused := List.count_pos_iff.2 hc
        have hself := hapart a
        exact hframe c (hentries.lt_length c hc) (by grind)
      refine ⟨by omega, fun c hc hunused => hframe c hc (by grind), _, _,
        .record hrecord (hbeside.insert_new hname hv), fun c => ?_⟩
      have hnew := s.count_withRecord [] [] c
      have hadd := fresh_add hgrows.length_le hlength c
      have hthen := hcount c
      rw [fresh_write] at hthen
      grind

/-- **Setting a value at a path that can be followed**, step by step and in place, is setting it in
the tree, if no record is used twice.

**Proof sketch.** Induction on the path. It goes through a record that is there
(`exists_enter_inside`), or one that is missing and is added (`exists_enter_missing`), and ends with
an entry that is set (`edited_write`). -/
theorem exists_run_setAt (hset : SetAt entries p w entries')
    (h : Holds s current (.record entries) R L) (hslot : Holds s slot w R' L')
    (hapart : ∀ b, R.count b + L.count b + R'.count b + L'.count b ≤ 1) :
    ∃ s', (setAt current p slot).run s = (.ok (), s') ∧
      Edited s s' current (.record entries') R L R' L' := by
  induction hset generalizing s current R L R' L' with
  | last tree name v =>
    obtain ⟨a, rfl⟩ := h.exists_ref
    exact ⟨_, run_setItem a name slot s, edited_write h hslot hapart name⟩
  | @through tree inner inner' name rest v hinner hrest ih =>
    obtain ⟨a, rfl⟩ := h.exists_ref
    rw [setAt_cons _ _ hrest.ne_nil]
    cases hname : tree.get? (.text name) with
    | some u =>
      obtain ⟨entries, rfl⟩ := isSome_within?_iff.1 ⟨inner, hinner⟩ u hname
      rw [hname] at hinner
      obtain rfl := Option.some.inj hinner
      obtain ⟨b, R₁, L₁, hrun, hheld, hle, houter⟩ :=
        exists_enter_inside h (fun c => by have := hapart c; omega) hname
      obtain ⟨s', hthen, hedited⟩ := ih hheld hslot fun c => by
        have := hapart c
        have := hle c
        omega
      exact ⟨s', by rw [run_bind, hrun]; exact hthen, houter s' _ hedited⟩
    | none =>
      rw [hname] at hinner
      obtain rfl := Option.some.inj hinner
      obtain ⟨b, s₁, hrun, hheld, hslot', hunused, houter⟩ :=
        exists_enter_missing h hslot hapart hname
      obtain ⟨s', hthen, hedited⟩ := ih hheld hslot' fun c => by
        have := hapart c
        grind
      exact ⟨s', by rw [run_bind, hrun]; exact hthen, houter s' _ hedited⟩

/-! ### Paths that cannot be followed -/

/-- Everything can be set in the record without entries. -/
lemma exists_setAt_nil (hp : p ≠ []) (w : Value) : ∃ entries, SetAt [] p w entries := by
  refine (exists_setAt_iff w).2 ⟨hp, fun q u _ _ hu => ?_⟩
  cases q with
  | nil => exact ⟨[], (Option.some.inj hu).symm⟩
  | cons name rest => cases hu

/-- **A path that cannot be followed** is refused, and no record has been changed by then.

**Proof sketch.** Induction on the path. It can only be that it cannot be followed because of what
is there: once a record is missing, everything can be set in the one that is added. So the path goes
through records that are there, which are entered without a change, up to a value that is none. -/
theorem exists_run_setAt_refused (h : Holds s current v R L) (hp : p ≠ []) (slot : Slot)
    (hrefused : ∀ entries w entries', v = .record entries → ¬ SetAt entries p w entries') :
    ∃ s', (setAt current p slot).run s = (.error .unusableValue, s') ∧ s.Grows s' := by
  induction p generalizing current v R L with
  | nil => exact absurd rfl hp
  | cons name rest ih =>
    by_cases hrecord : v.IsRecord
    · obtain ⟨entries, rfl⟩ := hrecord
      have hrest : rest ≠ [] := by
        rintro rfl
        exact hrefused entries .null _ rfl (.last entries name .null)
      obtain ⟨a, rfl⟩ := h.exists_ref
      cases h with
      | @record _ slots _ R L hfound hentries =>
      rw [setAt_cons _ _ hrest]
      cases hname : Keyed.get? slots (.text name) with
      | none =>
        have hnothing := hentries.get?_eq_none_iff.1 hname
        obtain ⟨inner, hset⟩ := exists_setAt_nil hrest .null
        refine absurd (SetAt.through ?_ hset) (hrefused entries .null _ rfl)
        rw [hnothing]
        rfl
      | some next =>
        obtain ⟨u, R₁, L₁, hu, hheld, -⟩ := hentries.focus hname
        obtain ⟨s', hrun, hgrows⟩ := ih hheld hrest fun inner w inner' hinner hset =>
          hrefused entries w _ rfl (.through (by rw [hu, hinner]; rfl) hset)
        exact ⟨s', by rw [run_bind, run_enter_of_found hfound hname]; exact hrun, hgrows⟩
    · have href : ∀ a, current ≠ .ref a := by
        rintro a rfl
        cases h
        exact hrecord ⟨_, rfl⟩
      by_cases hrest : rest = []
      · subst hrest
        exact ⟨s, run_setItem_refused href name slot s, .refl s⟩
      · obtain ⟨s', hrun, hgrows⟩ := exists_run_enter_refused href name s
        exact ⟨s', by rw [setAt_cons _ _ hrest, run_bind, hrun], hgrows⟩

/-! ### Getting the value at a path -/

/-- What a path leads to holds what the path leads to in the value. -/
lemma Holds.follow_eq (h : Holds s current v R L) (p : List Text) :
    (∃ slot w R' L', s.follow current p = .ok slot ∧ valueAt? v p = some w ∧
      Holds s slot w R' L') ∨ ∃ f, s.follow current p = .error f ∧ valueAt? v p = none := by
  induction p generalizing current v R L with
  | nil => exact .inl ⟨current, v, R, L, rfl, rfl, h⟩
  | cons name rest ih =>
    rw [follow, valueAt?_cons]
    cases h with
    | @record a slots entries R L hfound hentries =>
      have hitem := item_eq (show s.entries? (.ref a) = some slots from hfound) name
      rw [hitem]
      cases hname : Keyed.get? slots (.text name) with
      | none =>
        refine .inr ⟨.noSuchItem, rfl, ?_⟩
        rw [Value.member?, hentries.get?_eq_none_iff.1 hname]
        rfl
      | some next =>
        obtain ⟨u, R₁, L₁, hu, hheld, -⟩ := hentries.focus hname
        rw [Value.member?, hu]
        exact ih hheld
    | leaf hrecord =>
      refine .inr ⟨.unusableValue, rfl, ?_⟩
      cases v with
      | record entries => exact absurd ⟨entries, rfl⟩ hrecord
      | _ => rfl
    | list => exact .inr ⟨.unusableValue, rfl, rfl⟩

/-- **The value at a path** is that of the value that is held, or the default. -/
theorem Holds.getAt_eq (h : Holds s current v R L) (p : List Text) (default : Value) :
    s.getAt current p default = (valueAt? v p).getD default := by
  rcases h.follow_eq p with ⟨slot, w, R', L', hslot, hw, hheld⟩ | ⟨f, hf, hnone⟩
  · rw [getAt, hslot, hw]
    exact hheld.read_eq
  · rw [getAt, hf, hnone]
    rfl

end TableClient.Config.Store
