import Mathlib.Data.List.Forall2
import Mathlib.Tactic.Lemma

set_option relaxedAutoImplicit false
set_option autoImplicit false

/-!
# Computations that may fail

A computation that is made up of others has a value when they have. Two computations match when they
fail for the same reason or have values that are related; what is made up of matching ones matches.
The same is said of computations that leave a state, with states that are related.

## Main definitions

* `TableClient.Matches`, `TableClient.MatchesWith` — computations that fail alike, or have related
  values, and that leave related states.

## Main results

* `TableClient.bind_eq_ok_iff` — a computation that is followed by another one.
* `TableClient.map_eq_ok_iff`, `TableClient.mapError_eq_ok_iff` — a computation whose value or whose
  fault is changed.
* `TableClient.mapM_eq_ok_iff` — computations on the items of a list.
* `TableClient.run_bind`, `TableClient.run_bind_of_run` — a computation on a state that is followed
  by another one.
* `TableClient.Matches.bind` — matching computations that are followed by matching ones.
-/

namespace TableClient

variable {ε ε' α β : Type}

/-- A computation that has a value has one that can be named. -/
lemma exists_of_isOk {x : Except ε α} (h : x.isOk = true) : ∃ a, x = .ok a := by
  cases x with
  | error e => cases h
  | ok a => exact ⟨a, rfl⟩

/-- A computation without its fault has a value when it has one. -/
lemma toOption_eq_some_iff {x : Except ε α} {a : α} : x.toOption = some a ↔ x = .ok a := by
  cases x <;> simp [Except.toOption]

/-- A computation that is followed by another one has a value when both have. -/
lemma bind_eq_ok_iff {x : Except ε α} {f : α → Except ε β} {b : β} :
    x >>= f = .ok b ↔ ∃ a, x = .ok a ∧ f a = .ok b := by
  cases x with
  | error e =>
    constructor
    · intro h
      cases h
    · rintro ⟨a, ha, -⟩
      cases ha
  | ok a =>
    constructor
    · intro h
      exact ⟨a, rfl, h⟩
    · rintro ⟨a', ha, h⟩
      cases ha
      exact h

/-- A computation has a changed value when it has one. -/
lemma map_eq_ok_iff {x : Except ε α} {f : α → β} {b : β} :
    x.map f = .ok b ↔ ∃ a, x = .ok a ∧ f a = b := by
  cases x <;> simp [Except.map]

/-- Computations on the items of a list have values when each of them has one. -/
lemma mapM_eq_ok_iff {f : α → Except ε β} {as : List α} {bs : List β} :
    as.mapM f = .ok bs ↔ List.Forall₂ (fun a b => f a = .ok b) as bs := by
  induction as generalizing bs with
  | nil =>
    rw [List.mapM_nil, List.forall₂_nil_left_iff]
    exact ⟨fun h => (Except.ok.inj h).symm, fun h => congrArg Except.ok h.symm⟩
  | cons a as ih =>
    rw [List.mapM_cons, bind_eq_ok_iff, List.forall₂_cons_left_iff]
    constructor
    · rintro ⟨b, hb, hrest⟩
      obtain ⟨rest, hmap, hbs⟩ := bind_eq_ok_iff.1 hrest
      exact ⟨b, rest, hb, ih.1 hmap, (Except.ok.inj hbs).symm⟩
    · rintro ⟨b, rest, hb, hmap, rfl⟩
      exact ⟨b, hb, bind_eq_ok_iff.2 ⟨rest, ih.2 hmap, rfl⟩⟩

/-- Computations on the items of lists with the same results item by item. -/
lemma mapM_congr_of_forall₂ {f : α → Except ε β} {as as' : List α}
    (h : List.Forall₂ (fun a a' => f a = f a') as as') : as.mapM f = as'.mapM f := by
  induction h with
  | nil => rfl
  | cons hitem _ ih => rw [List.mapM_cons, List.mapM_cons, hitem, ih]

/-- Items with the same values one by one have the same results. -/
lemma forall₂_same_result {f : α → Except ε β} {as as' : List α} {bs : List β}
    (h : List.Forall₂ (fun a b => f a = .ok b) as bs)
    (h' : List.Forall₂ (fun a b => f a = .ok b) as' bs) :
    List.Forall₂ (fun a a' => f a = f a') as as' := by
  induction h generalizing as' with
  | nil =>
    cases h'
    exact .nil
  | cons hitem _ ih =>
    cases h' with
    | cons hitem' hrest' => exact .cons (hitem.trans hitem'.symm) (ih hrest')

/-- Computations on the items of a list that fail for one reason only, when some item does not pass
a test. -/
lemma mapM_eq_ite {f : α → Except ε β} {passes : α → Bool} {value : α → β} {fault : ε} {as : List α}
    (h : ∀ a ∈ as, f a = if passes a then .ok (value a) else .error fault) :
    as.mapM f = if as.all passes then .ok (as.map value) else .error fault := by
  induction as with
  | nil => rfl
  | cons a as ih =>
    obtain ⟨ha, has⟩ := List.forall_mem_cons.1 h
    rw [List.mapM_cons, ha, ih has, List.all_cons]
    cases passes a <;> cases as.all passes <;> rfl

/-- A change of the fault leaves the values of a computation. -/
lemma mapError_eq_ok_iff {x : Except ε α} {f : ε → ε'} {a : α} :
    x.mapError f = .ok a ↔ x = .ok a := by
  cases x with
  | error e => exact iff_of_false (fun h => nomatch h) fun h => nomatch h
  | ok b =>
    constructor
    · intro h
      cases h
      rfl
    · intro h
      cases h
      rfl

/-- A computation on a state passes its value and its state on. -/
lemma run_bind_of_run {σ : Type} {m : StateM σ α} {k : α → StateM σ β} {s s' : σ} {a : α}
    (h : m.run s = (a, s')) : (m >>= k).run s = (k a).run s' := by
  rw [StateT.run_bind, h]
  rfl

/-- The state is passed on by an action that succeeds, and the next action is not run otherwise. -/
lemma run_bind {ε σ : Type} (a : ExceptT ε (StateM σ) α) (k : α → ExceptT ε (StateM σ) β) (s : σ) :
    (a >>= k).run s = match a.run s with
      | (.ok x, s) => (k x).run s
      | (.error f, s) => (.error f, s) := by
  rw [ExceptT.run_bind]
  change StateT.bind _ _ s = _
  rcases h : a.run s with ⟨_ | x, s'⟩ <;> simp only [StateT.bind, h] <;> rfl

/-- Computations that fail for the same reason, or have values that are related by `R`. -/
inductive Matches (R : α → α → Prop) : Except ε α → Except ε α → Prop where
  | error (e : ε) : Matches R (.error e) (.error e)
  | ok {a a' : α} : R a a' → Matches R (.ok a) (.ok a')

/-- Computations that match and leave states that are related by `T`. -/
structure MatchesWith {σ : Type} (R : α → α → Prop) (T : σ → σ → Prop) (r r' : Except ε α × σ) :
    Prop where
  result : Matches R r.1 r'.1
  state : T r.2 r'.2

variable {σ : Type} {R : α → α → Prop} {S : β → β → Prop} {T : σ → σ → Prop} {x x' : Except ε α}
  {r r' : Except ε α × σ}

/-- A computation matches itself if each of its values is related to itself. -/
lemma Matches.refl (h : ∀ a, R a a) (x : Except ε α) : Matches R x x := by
  cases x with
  | error e => exact .error e
  | ok a => exact .ok (h a)

/-- Values that are related are related in a weaker way. -/
lemma Matches.mono {R' : α → α → Prop} (h : Matches R x x') (hR : ∀ a a', R a a' → R' a a') :
    Matches R' x x' := by
  cases h with
  | error e => exact .error e
  | ok ha => exact .ok (hR _ _ ha)

/-- Matching computations fail both, or have values both. -/
lemma Matches.cases (h : Matches R x x') :
    (∃ e, x = .error e ∧ x' = .error e) ∨ ∃ a a', x = .ok a ∧ x' = .ok a' ∧ R a a' := by
  cases h with
  | error e => exact .inl ⟨e, rfl, rfl⟩
  | ok ha => exact .inr ⟨_, _, rfl, rfl, ha⟩

/-- Matching computations fail both, or have values both, and leave related states. -/
lemma MatchesWith.cases (h : MatchesWith R T r r') :
    (∃ e s s', r = (.error e, s) ∧ r' = (.error e, s') ∧ T s s') ∨
      ∃ a a' s s', r = (.ok a, s) ∧ r' = (.ok a', s') ∧ R a a' ∧ T s s' := by
  obtain ⟨x, s⟩ := r
  obtain ⟨x', s'⟩ := r'
  obtain ⟨e, rfl, rfl⟩ | ⟨a, a', rfl, rfl, ha⟩ := h.result.cases
  · exact .inl ⟨e, s, s', rfl, rfl, h.state⟩
  · exact .inr ⟨a, a', s, s', rfl, rfl, ha, h.state⟩

/-- Matching computations are followed by matching ones. -/
lemma Matches.bind {f f' : α → Except ε β} (h : Matches R x x')
    (hf : ∀ a a', R a a' → Matches S (f a) (f' a')) : Matches S (x >>= f) (x' >>= f') := by
  cases h with
  | error e => exact .error e
  | ok ha => exact hf _ _ ha

end TableClient
