import TableClient.Proofs.Query.Step

set_option relaxedAutoImplicit false
set_option autoImplicit false

/-!
# Refused steps leave no trace

A refused step changes neither the tokens nor the field nor any relative condition, and a step that
is taken adds at most one token. A run is therefore the same run without its refused steps.

## Main definitions

* `TableClient.Query.Draft.taken` — the steps of a run that are taken, with their answers.

## Main results

* `TableClient.Query.Draft.refused_steps_invisible` — one step, and the erasure of refused steps
  from a run.
-/

namespace TableClient.Query

namespace Draft

/-- The steps of a run that are taken, with their answers. -/
def taken (d : Draft) (cs : List Call) : List (Call × Except Fault Reply) :=
  (cs.zip (d.run cs).1).filter fun p => p.2.isOk

/-- A run is its first step and the run of the others from there. -/
lemma run_cons (d : Draft) (c : Call) (cs : List Call) :
    d.run (c :: cs) = ((d.step c).1 :: ((d.step c).2.run cs).1, ((d.step c).2.run cs).2) := rfl

/-- A step that is taken stands before the steps that are taken after it. -/
lemma taken_cons_of_ok {d d' : Draft} {c : Call} {answer : Reply}
    (h : d.step c = (.ok answer, d')) (cs : List Call) :
    d.taken (c :: cs) = (c, .ok answer) :: d'.taken cs := by
  unfold taken
  rw [run_cons, h]
  rfl

/-- A step that is refused is not among the steps that are taken. -/
lemma taken_cons_of_error {d : Draft} {c : Call} {f : Fault} (h : d.step c = (.error f, d))
    (cs : List Call) : d.taken (c :: cs) = d.taken cs := by
  unfold taken
  rw [run_cons, h]
  rfl

/-- A step that is taken adds at most one token behind the others. -/
lemma tokens_step_of_ok {d : Draft} {c : Call} {answer : Reply}
    (h : (d.step c).1 = .ok answer) :
    ∃ added, (d.step c).2.builder.tokens = d.builder.tokens ++ added ∧ added.length ≤ 1 := by
  obtain ⟨-, hstep⟩ | ⟨f, -, hstep⟩ := d.step_cases c
  · refine ⟨(c.token? d).toList.map Token.text, ?_, ?_⟩
    · rw [hstep]
      exact d.tokens_after c
    · cases c.token? d <;> simp
  · rw [hstep] at h
    cases h

/-- The steps of a run that are taken make the same run by themselves.

**Proof sketch.** Induction on the run. A step that is taken leaves the same draft and gives the
same answer in both runs; a step that is refused leaves the draft as it is (`Draft.step_cases`), so
that leaving it out changes nothing for the steps after it. -/
lemma run_taken (d : Draft) (cs : List Call) :
    d.run ((d.taken cs).map Prod.fst) = ((d.taken cs).map Prod.snd, (d.run cs).2) := by
  induction cs generalizing d with
  | nil => rfl
  | cons c cs ih =>
    obtain ⟨-, hstep⟩ | ⟨f, -, hstep⟩ := d.step_cases c
    · rw [taken_cons_of_ok hstep, List.map_cons, List.map_cons, run_cons, run_cons, hstep,
        ih (c.after d)]
    · rw [taken_cons_of_error hstep, run_cons, hstep]
      exact ih d

/-- **Refused steps leave no trace.** A refused step leaves the whole draft as it is; a step that is
taken keeps the tokens and adds at most one behind them; and without its refused steps a run leaves
the same draft, with the same answers for the steps that remain. -/
theorem refused_steps_invisible (d : Draft) :
    (∀ c f, (d.step c).1 = .error f → (d.step c).2 = d) ∧
    (∀ c answer, (d.step c).1 = .ok answer →
      ∃ added, (d.step c).2.builder.tokens = d.builder.tokens ++ added ∧ added.length ≤ 1) ∧
    ∀ cs, d.run ((d.taken cs).map Prod.fst) = ((d.taken cs).map Prod.snd, (d.run cs).2) := by
  refine ⟨fun c f h => ?_, fun c answer h => tokens_step_of_ok h, d.run_taken⟩
  obtain ⟨-, hstep⟩ | ⟨e, -, hstep⟩ := d.step_cases c
  · rw [hstep] at h
    cases h
  · rw [hstep]

/-- An ordering without a field is refused, and the draft stays empty. -/
theorem order_empty_refused :
    (empty.step (.order true)).1 = .error .missingField ∧ (empty.step (.order true)).2 = empty := by
  have hrefused : (empty.step (.order true)).1 = .error .missingField := rfl
  exact ⟨hrefused, (refused_steps_invisible empty).1 _ _ hrefused⟩

end Draft

end TableClient.Query
