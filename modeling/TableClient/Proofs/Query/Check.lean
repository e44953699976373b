import TableClient.Proofs.Computation
import TableClient.Query.Draft

set_option relaxedAutoImplicit false
set_option autoImplicit false

/-!
# Steps as checks followed by a change

A step of a query is described by a list of checks and by what it does when all of them pass. The
reason for which it is refused is that of the first check that fails, and a step that is refused
does nothing. Computations that may fail have the same form, so descriptions are put together along
the monadic structure of the steps.

## Main definitions

* `TableClient.Query.Check` — a condition with the reason that it gives when it fails.
* `TableClient.Query.firstFault` — the reason of the first check that fails.
* `TableClient.Query.guarded` — a value that is given out when all checks pass.
* `TableClient.Query.transact` — a change of a draft that is made when all checks pass.

## Main results

* `TableClient.Query.firstFault_eq_none_iff` — no reason is given exactly when all checks pass.
* `TableClient.Query.run_bind_of_check`, `TableClient.Query.run_bind_of_commit` — an action that
  checks first and changes the draft last is a transaction.
-/

namespace TableClient.Query

/-- A condition of a step, with the reason for which the step is refused when it fails. -/
structure Check where
  passes : Bool
  fault : Fault

/-- The reason of the first check that fails. -/
def firstFault : List Check → Option Fault
  | [] => none
  | c :: cs => if c.passes then firstFault cs else some c.fault

/-- The value, when all checks pass. -/
def guarded {α : Type} (checks : List Check) (v : α) : Except Fault α :=
  match firstFault checks with
  | none => .ok v
  | some f => .error f

/-- A step that makes its change when all checks pass, and leaves the draft as it is otherwise. -/
def transact {α : Type} (d : Draft) (checks : List Check) (answer : α) (after : Draft) :
    Except Fault α × Draft :=
  match firstFault checks with
  | none => (.ok answer, after)
  | some f => (.error f, d)

variable {α β : Type} {checks more : List Check} {v : α} {w : β} {d d' d'' : Draft}

/-! ### Lists of checks -/

/-- The checks of a longer list are gone through in order. -/
lemma firstFault_append (cs ds : List Check) :
    firstFault (cs ++ ds) = (firstFault cs).or (firstFault ds) := by
  induction cs with
  | nil => rfl
  | cons c cs ih =>
    simp only [List.cons_append, firstFault]
    split
    · exact ih
    · rfl

/-- No reason is given exactly when all checks pass. -/
theorem firstFault_eq_none_iff (cs : List Check) :
    firstFault cs = none ↔ ∀ c ∈ cs, c.passes = true := by
  induction cs with
  | nil => simp [firstFault]
  | cons c cs ih =>
    by_cases h : c.passes <;> simp [firstFault, h, ih]

/-- A reason is given exactly when it is that of a check before which all others pass. -/
theorem firstFault_eq_some_iff (cs : List Check) (f : Fault) :
    firstFault cs = some f ↔
      ∃ before c after, cs = before ++ c :: after ∧ (∀ b ∈ before, b.passes = true) ∧
        c.passes = false ∧ c.fault = f := by
  constructor
  · induction cs with
    | nil => simp [firstFault]
    | cons c cs ih =>
      intro h
      by_cases hc : c.passes
      · obtain ⟨before, x, after, rfl, hb, hx, hf⟩ := ih (by simpa [firstFault, hc] using h)
        exact ⟨c :: before, x, after, rfl, by simpa [hc] using hb, hx, hf⟩
      · exact ⟨[], c, cs, rfl, by simp, by simpa using hc, by simpa [firstFault, hc] using h⟩
  · rintro ⟨before, c, after, rfl, hb, hc, rfl⟩
    rw [firstFault_append, (firstFault_eq_none_iff before).2 hb]
    simp [firstFault, hc]

/-- A check that passes can be left out at the end. -/
lemma firstFault_concat_of_passes {c : Check} (cs : List Check) (h : c.passes = true) :
    firstFault (cs ++ [c]) = firstFault cs := by
  rw [firstFault_append, (firstFault_eq_none_iff [c]).2 (by simpa using h), Option.or_none]

/-! ### Values behind checks -/

/-- A check before a value and its other checks. -/
lemma guarded_cons (c : Check) (cs : List Check) (v : α) :
    guarded (c :: cs) v = if c.passes then guarded cs v else .error c.fault := by
  unfold guarded
  rw [firstFault]
  cases c.passes <;> rfl

/-- One check before a value. -/
lemma guarded_singleton (c : Check) (v : α) :
    guarded [c] v = if c.passes then .ok v else .error c.fault := guarded_cons c [] v

/-- Checks of two computations, one after the other. The second computation only matters when the
checks of the first pass. -/
lemma guarded_bind {f : α → Except Fault β}
    (h : firstFault checks = none → f v = guarded more w) :
    (guarded checks v >>= f) = guarded (checks ++ more) w := by
  unfold guarded at *
  rw [firstFault_append]
  cases hc : firstFault checks with
  | none => exact h hc
  | some e => rfl

/-- Checks before a value that is changed afterwards. -/
lemma guarded_map (f : α → β) : (guarded checks v).map f = guarded checks (f v) := by
  unfold guarded
  cases firstFault checks <;> rfl

/-- Checks that pass can be left out at the beginning. -/
lemma guarded_append_of_passes (h : ∀ c ∈ checks, c.passes = true) :
    guarded (checks ++ more) v = guarded more v := by
  rw [guarded, guarded, firstFault_append, (firstFault_eq_none_iff checks).2 h, Option.none_or]

/-- Computations on the elements of a list, each behind its own checks. -/
lemma mapM_guarded {f : α → Except Fault β} {c : α → List Check} {g : α → β} {xs : List α}
    (h : ∀ x ∈ xs, f x = guarded (c x) (g x)) :
    xs.mapM f = guarded (xs.flatMap c) (xs.map g) := by
  induction xs with
  | nil => rfl
  | cons x xs ih =>
    rw [List.mapM_cons, h x List.mem_cons_self, List.flatMap_cons]
    refine guarded_bind fun _ => ?_
    rw [ih fun y hy => h y (List.mem_cons_of_mem x hy)]
    exact guarded_map _

/-! ### Actions as transactions -/

/-- A transaction is as it is without checks at the beginning that pass. -/
lemma transact_append_of_passes (answer : α) (h : ∀ c ∈ checks, c.passes = true) :
    transact d (checks ++ more) answer d' = transact d more answer d' := by
  rw [transact, transact, firstFault_append, (firstFault_eq_none_iff checks).2 h, Option.none_or]

/-- An action that only looks at the draft is a transaction without a change. -/
lemma run_liftExcept_guarded :
    (liftExcept (guarded checks v) : Action α).run d = transact d checks v d := by
  unfold guarded transact
  cases firstFault checks <;> rfl

/-- A computation whose value is put into the draft. -/
lemma run_liftExcept_modify (f : α → Draft → Draft) :
    (liftExcept (guarded checks v) >>= fun x => modify (f x) : Action Unit).run d =
      transact d checks () (f v d) := by
  unfold guarded transact
  cases firstFault checks <;> rfl

/-- **Checks come first**: an action that leaves the draft as it is, followed by a transaction, is a
transaction with the checks of both. -/
theorem run_bind_of_check {a : Action α} {k : α → Action β} (ha : a.run d = transact d checks v d)
    (hk : (k v).run d = transact d more w d') :
    (a >>= k).run d = transact d (checks ++ more) w d' := by
  rw [run_bind, ha]
  unfold transact at *
  rw [firstFault_append]
  cases firstFault checks with
  | none => exact hk
  | some e => rfl

/-- **The change comes last**: a transaction followed by an action that cannot be refused is a
transaction with the checks of the former. -/
theorem run_bind_of_commit {a : Action α} {k : α → Action β} (ha : a.run d = transact d checks v d')
    (hk : (k v).run d' = transact d' [] w d'') :
    (a >>= k).run d = transact d checks w d'' := by
  rw [run_bind, ha]
  unfold transact at *
  cases firstFault checks with
  | none => exact hk
  | some e => rfl

end TableClient.Query
