import TableClient.Proofs.Query.Atomicity

set_option relaxedAutoImplicit false
set_option autoImplicit false

/-!
# Composition of queries

A step looks at the field and at the relative condition that it is about, and at nothing else of
what was done before; only building looks at the tokens. So a part of a query that chooses its field
first and completes only relative conditions that it began itself does the same behind any other
part as it does on its own: its tokens stand behind the others, and its relative conditions are
numbered behind the others.

## Main definitions

* `TableClient.Query.Call.shift` — a step on relative conditions that are numbered higher.
* `TableClient.Query.Draft.behind` — a draft with the tokens and relative conditions of another one
  in front.

## Main results

* `TableClient.Query.Draft.step_shift`, `TableClient.Query.Draft.run_shift` — a step and a run
  behind another draft.
* `TableClient.Query.Draft.parts_compose` — a part of a query behind any draft.
-/

namespace TableClient.Query

/-- The same step, on a relative condition that is numbered higher by `n`. -/
def Call.shift (n : Nat) : Call → Call
  | before index second => before (n + index) second
  | showRelative index => showRelative (n + index)
  | c => c

namespace Draft

/-- The draft with the tokens and the relative conditions of another one in front of its own. -/
def behind (e d : Draft) : Draft :=
  ⟨⟨d.builder.tokens ++ e.builder.tokens, e.builder.field⟩, d.relatives ++ e.relatives⟩

/-- The draft of a new query on a field. -/
def on (field : Value) : Draft := ⟨⟨[], field⟩, []⟩

/-! ### One step -/

section Step

variable (d e : Draft)

/-- The own relative conditions are found behind those in front. -/
lemma getElem?_behind (index : Nat) :
    (e.behind d).relatives[d.relatives.length + index]? = e.relatives[index]? := by
  show (d.relatives ++ e.relatives)[d.relatives.length + index]? = _
  rw [List.getElem?_append_right (Nat.le_add_right _ _), Nat.add_sub_cancel_left]

/-- A token is added behind those in front. -/
lemma push_behind (token : Text) : (e.behind d).push token = (e.push token).behind d := by
  simp [push, behind]

/-- A relative condition is begun behind those in front. -/
lemma begin_behind (r : Relative) : (e.behind d).begin r = (e.begin r).behind d := by
  simp [begin, behind]

/-- Changing an element of the second part of a list. -/
lemma modify_append_length_add {α : Type} (f : α → α) (xs ys : List α) (index : Nat) :
    (xs ++ ys).modify (xs.length + index) f = xs ++ ys.modify index f := by
  induction xs with
  | nil => simp
  | cons x xs ih =>
    rw [List.length_cons, Nat.succ_add, List.cons_append, List.modify_succ_cons, ih,
      List.cons_append]

/-- Completing an own relative condition leaves those in front. -/
lemma complete_behind (index : Nat) :
    (e.behind d).complete (d.relatives.length + index) = (e.complete index).behind d := by
  simp only [complete, behind, modify_append_length_add]

variable {c : Call}

/-- A step has the same checks behind another draft, unless it builds the query. -/
lemma checks_shift (h : c ≠ .build) :
    (c.shift d.relatives.length).checks (e.behind d) = c.checks e := by
  cases c with
  | before index second =>
    simp only [Call.shift, Call.checks, getElem?_behind]
    rfl
  | showRelative index => simp only [Call.shift, Call.checks, getElem?_behind]
  | build => exact absurd rfl h
  | _ => rfl

/-- A step adds the same token behind another draft. -/
lemma token?_shift (c : Call) :
    (c.shift d.relatives.length).token? (e.behind d) = c.token? e := by
  cases c with
  | before index second => simp only [Call.shift, Call.token?, getElem?_behind]
  | _ => rfl

/-- A step answers the same behind another draft, unless it builds the query. -/
lemma reply_shift (h : c ≠ .build) :
    (c.shift d.relatives.length).reply (e.behind d) = c.reply e := by
  cases c with
  | showRelative index => simp only [Call.shift, Call.reply, getElem?_behind]
  | build => exact absurd rfl h
  | _ => rfl

/-- The token of a step is added behind those in front. -/
lemma withToken_shift (c : Call) :
    (c.shift d.relatives.length).withToken (e.behind d) = (c.withToken e).behind d := by
  unfold Call.withToken
  rw [token?_shift]
  cases c.token? e with
  | none => rfl
  | some token => exact push_behind d e token.text

/-- A step leaves what is in front of a draft. -/
lemma after_shift (c : Call) :
    (c.shift d.relatives.length).after (e.behind d) = (c.after e).behind d := by
  cases c with
  | field name => rfl
  | relative | relativeParts => exact begin_behind d e _
  | before index second =>
    show (Call.withToken _ (Call.shift _ (.before index second))).complete _ = _
    rw [withToken_shift]
    exact complete_behind d _ index
  | condition c => exact withToken_shift d e (.condition c)
  | order descending => exact withToken_shift d e (.order descending)
  | join marker => exact withToken_shift d e (.join marker)
  | showRelative index => exact withToken_shift d e (.showRelative index)
  | build => exact withToken_shift d e .build

/-- **A step does the same behind another draft**, unless it builds the query. -/
theorem step_shift (h : c ≠ .build) :
    (e.behind d).step (c.shift d.relatives.length) = ((e.step c).1, (e.step c).2.behind d) := by
  rw [step_eq, step_eq, checks_shift d e h, reply_shift d e h, after_shift]
  unfold transact
  cases firstFault (c.checks e) <;> rfl

end Step

/-! ### Runs -/

/-- **A run does the same behind another draft**, unless it builds the query: every step has the
same answer, or is refused for the same reason. -/
theorem run_shift (d e : Draft) {cs : List Call} (hbuild : .build ∉ cs) :
    (e.behind d).run (cs.map (Call.shift d.relatives.length)) =
      ((e.run cs).1, (e.run cs).2.behind d) := by
  induction cs generalizing e with
  | nil => rfl
  | cons c cs ih =>
    obtain ⟨hc, hcs⟩ := not_or.1 (mt List.mem_cons.2 hbuild)
    rw [List.map_cons, run_cons, run_cons, step_shift d e (Ne.symm hc), ih _ hcs]

/-- A run that begins with the choice of a field is one behind what was there before. -/
lemma run_field (d : Draft) (field : Value) (cs : List Call) :
    d.run (.field field :: cs) =
      (.ok .builder :: (((on field).behind d).run cs).1, (((on field).behind d).run cs).2) := by
  have hstep : d.step (.field field) = (.ok .builder, (on field).behind d) := by
    simp [step_eq, transact, Call.checks, Call.reply, Call.after, firstFault, behind, on]
  rw [run_cons, hstep]

/-- **Queries compose.** A part of a query chooses its field first, does not build the query, and
refers only to relative conditions that it began itself, which behind a draft are numbered from the
number of those that are there. There, each step has the answer that it has in a new query, or is
refused for the same reason; the tokens and the relative conditions of the new query stand behind
those of the draft, which stay as they are; and the field is that of the new query. Building gives
the text of the draft with that of the new query behind it, unless there is no token in either.

**Proof sketch.** Choosing the field leaves nothing of the draft to be looked at (`run_field`).
From there on each step has the same checks, the same answer and the same token behind the draft as
in the new query, by cases on the step (`step_shift`), and the run follows by induction. -/
theorem parts_compose (d : Draft) (field : Value) {cs : List Call} (hbuild : .build ∉ cs) :
    let part := Call.field field :: cs
    let new := empty.run part
    let later := d.run (part.map (Call.shift d.relatives.length))
    later.1 = new.1 ∧
    later.2.builder.tokens = d.builder.tokens ++ new.2.builder.tokens ∧
    later.2.builder.field = new.2.builder.field ∧
    later.2.relatives = d.relatives ++ new.2.relatives ∧
    later.2.step .build =
      (if d.builder.tokens = [] ∧ new.2.builder.tokens = [] then .error .emptyQuery
        else .ok (.encoded (d.builder.encoded ++ new.2.builder.encoded)), later.2) := by
  intro part new later
  have hnew : new = (.ok .builder :: ((on field).run cs).1, ((on field).run cs).2) :=
    run_field empty field cs
  have hlater : later = (new.1, new.2.behind d) := by
    have hrun := run_shift d (on field) hbuild
    show d.run (.field field :: cs.map (Call.shift d.relatives.length)) = _
    rw [run_field, hrun, hnew]
  rw [hlater]
  refine ⟨rfl, rfl, rfl, rfl, ?_⟩
  have hencoded : (new.2.behind d).builder.encoded =
      d.builder.encoded ++ new.2.builder.encoded := by
    simp [Builder.encoded, behind, Text.flatten]
    rfl
  rw [step_build, Builder.build, hencoded]
  by_cases h : d.builder.tokens = [] ∧ new.2.builder.tokens = []
  · simp [behind, h, Except.map]
  · simp [behind, h, Except.map]

/-- A part of four refused steps among others, behind a draft with an open relative condition: the
part completes its own one, and that of the draft stays open. -/
theorem parts_compose_open :
    let d : Draft :=
      ⟨⟨["priority=1"], .text "priority"⟩,
        [⟨.text "opened_at", .text "MORE", .int 2, .text "day", false⟩]⟩
    let cs : List Call := [.join .or, .order true, .condition (.textual .contains .null),
      .relative true .null (.text "hour"), .relative true (.int 1) (.text "hour"),
      .field (.text ""), .before 0 (.text "closed_at"), .field (.text "state"),
      .before 0 (.text "closed_at"), .before 0 (.text "closed_at")]
    let later := d.run ((.field (.text "due_at") :: cs).map (Call.shift 1))
    .build ∉ cs ∧
      later.2.builder.tokens = ["priority=1", "^OR", "ORDERBYDESCdue_at",
        "closed_atLESSTHANdue_at@hour@before@1"] ∧
      later.2.relatives.map Relative.completed = [false, true] := by
  intro d cs later
  have hbuild : Call.build ∉ cs := by simp [cs]
  obtain ⟨-, htokens, -, hrelatives, -⟩ := parts_compose d (.text "due_at") hbuild
  refine ⟨hbuild, htokens.trans ?_, (congrArg _ hrelatives).trans ?_⟩
  · decide +kernel
  · decide +kernel

end Draft

end TableClient.Query
