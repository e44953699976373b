import Mathlib.Data.List.Infix
import TableClient.Proofs.Query.Atomicity
import TableClient.Proofs.Query.RelativeDates

set_option relaxedAutoImplicit false
set_option autoImplicit false

/-!
# The forms of tokens

Every token of a query is a join marker, an ordering or a condition. Orderings and conditions are
meant to name a field, and those on the field of the builder do. Completing a relative condition
checks the captured field and puts the second field to the left of the operator without looking
whether it is empty, so that a condition without a left side can get into a query there, and only
there.

## Main definitions

* `TableClient.Query.Token.WellFormed` — the tokens in which no field is missing.
* `TableClient.Query.Draft.history` — the tokens that a run adds, in parts.

## Main results

* `TableClient.Query.Draft.tokens_run` — a run adds the texts of its history.
* `TableClient.Query.Draft.history_wellFormed_iff` — the runs in which no field is missing.
* `TableClient.Query.Draft.tokens_wellFormed_iff` — both, of the tokens of a query.
* `TableClient.Query.Draft.before_empty_malformed` — a run with a condition without a left side.
-/

namespace TableClient.Query

/-- The tokens in which no field is missing: join markers, orderings by a field that is not empty,
and conditions that begin with a field that is not empty. -/
def Token.WellFormed : Token → Prop
  | join _ => True
  | order _ name => name ≠ ""
  | condition left _ _ => left ≠ ""

/-- Whether a step completes a relative condition with the empty text. -/
def Call.CompletesWithEmpty (c : Call) : Prop := ∃ k, c = .before k (.text "")

namespace Draft

/-- The tokens that the steps of a run add, in order. -/
def history (d : Draft) : List Call → List Token
  | [] => []
  | c :: cs => (if (d.step c).1.isOk then (c.token? d).toList else []) ++ (d.step c).2.history cs

/-- The history begins with the token of a step that is taken. -/
lemma history_cons_of_ok {d : Draft} {c : Call} (h : d.step c = (.ok (c.reply d), c.after d))
    (cs : List Call) :
    d.history (c :: cs) = (c.token? d).toList ++ (c.after d).history cs := by
  rw [history, h]
  rfl

/-- A step that is refused leaves nothing in the history. -/
lemma history_cons_of_error {d : Draft} {c : Call} {f : Fault} (h : d.step c = (.error f, d))
    (cs : List Call) : d.history (c :: cs) = d.history cs := by
  rw [history, h]
  rfl

/-- **A run adds the texts of its history** behind the tokens that are there. -/
theorem tokens_run (d : Draft) (cs : List Call) :
    (d.run cs).2.builder.tokens = d.builder.tokens ++ (d.history cs).map Token.text := by
  induction cs generalizing d with
  | nil => simp [run, history]
  | cons c cs ih =>
    rw [run_cons, ih]
    obtain ⟨-, hstep⟩ | ⟨f, -, hstep⟩ := d.step_cases c
    · rw [history_cons_of_ok hstep, hstep, d.tokens_after c, List.map_append, List.append_assoc]
    · rw [history_cons_of_error hstep, hstep]

/-- The name of a non-empty text is not empty. -/
lemma nameOf_ne_empty {v : Value} (h : NonEmptyText v) : nameOf v ≠ "" := by
  obtain ⟨name, rfl, hname⟩ := h
  exact hname

/-- The token of a step whose checks pass is well-formed, unless the step completes a relative
condition with the empty text. -/
lemma token_wellFormed_iff {d : Draft} {c : Call} {t : Token} (ht : c.token? d = some t)
    (hpass : firstFault (c.checks d) = none) : t.WellFormed ↔ ¬ c.CompletesWithEmpty := by
  unfold Call.CompletesWithEmpty
  cases c with
  | join marker =>
    cases ht
    simp [Token.WellFormed]
  | condition c =>
    cases ht
    have hfield := ((Clause.firstFault_checks_eq_none_iff (.condition c) d.builder.field).1 hpass).1
    simp [Token.WellFormed, Condition.token, nameOf_ne_empty hfield]
  | order descending =>
    cases ht
    have hfield :=
      (Clause.firstFault_checks_eq_none_iff (.order descending) d.builder.field).1 hpass
    simp [Token.WellFormed, nameOf_ne_empty hfield]
  | before index second =>
    simp only [Call.token?] at ht
    cases hr : d.relatives[index]? with
    | none => simp [hr] at ht
    | some r =>
      simp only [Call.checks, hr, Relative.checks] at hpass
      have hkind : isAmong Kind.textOnly second = true :=
        (firstFault_eq_none_iff _).1 hpass (kindCheck Kind.textOnly second) (by simp)
      obtain ⟨g, rfl⟩ := (ofKind_textOnly_iff second).1 ((isAmong_iff _ _).1 hkind)
      obtain rfl : r.token (.text g) = t := by simpa [hr] using ht
      simp [Token.WellFormed, Relative.token, nameOf, Value.text?]
  | _ => cases ht

/-- **No field is missing in a run exactly when no step that is taken completes a relative condition
with the empty text.**

**Proof sketch.** Induction on the run. A step that is refused adds no token; the token of a step
that is taken is well-formed unless the step is of that form (`Draft.token_wellFormed_iff`), and a
step of that form always adds a token. -/
theorem history_wellFormed_iff (d : Draft) (cs : List Call) :
    (∀ t ∈ d.history cs, t.WellFormed) ↔ ∀ p ∈ d.taken cs, ¬ p.1.CompletesWithEmpty := by
  induction cs generalizing d with
  | nil => simp [history, taken, run]
  | cons c cs ih =>
    obtain ⟨hpass, hstep⟩ | ⟨f, -, hstep⟩ := d.step_cases c
    · rw [history_cons_of_ok hstep, taken_cons_of_ok hstep, List.forall_mem_append,
        List.forall_mem_cons, ih]
      refine and_congr_left fun _ => ?_
      cases ht : c.token? d with
      | some t => simp [token_wellFormed_iff ht hpass]
      | none =>
        have hother : ¬ c.CompletesWithEmpty := by
          rintro ⟨k, rfl⟩
          have hr : d.relatives[k]? = none := by simpa [Call.token?] using ht
          simp [Call.checks, hr, firstFault] at hpass
        simp [hother]
    · rw [history_cons_of_error hstep, taken_cons_of_error hstep, ih]

/-- **The tokens of a query.** A run adds the texts of its history, which consists of join markers,
orderings and conditions; and no field is missing in them exactly when no step that is taken
completes a relative condition with the empty text. -/
theorem tokens_wellFormed_iff (d : Draft) (cs : List Call) :
    (d.run cs).2.builder.tokens = d.builder.tokens ++ (d.history cs).map Token.text ∧
      ((∀ t ∈ d.history cs, t.WellFormed) ↔ ∀ p ∈ d.taken cs, ¬ p.1.CompletesWithEmpty) :=
  ⟨d.tokens_run cs, d.history_wellFormed_iff cs⟩

/-- The token of a condition without a left side. -/
def bareToken : Text := "MORETHANa@day@before@2"

/-- The token begins with no operator of an ordering, and holds no operator behind its first code
point. -/
lemma bareToken_not_wellFormed (t : Token) (h : t.WellFormed) : t.text ≠ bareToken := by
  intro heq
  cases t with
  | join marker => cases marker <;> exact absurd heq (by decide)
  | order descending name =>
    have hprefix : Text.points (orderOperator descending).tag <+: bareToken.points :=
      ⟨name.points, congrArg Text.points heq⟩
    revert hprefix
    cases descending <;> decide
  | condition left operator operand =>
    obtain ⟨points⟩ := left
    cases points with
    | nil => exact h rfl
    | cons p ps =>
      have htail : ps ++ Text.points operator.tag ++ operand.points = bareToken.points.tail :=
        congrArg (List.tail ∘ Text.points) heq
      have hinfix : Text.points operator.tag <:+: bareToken.points.tail :=
        ⟨ps, operand.points, htail⟩
      revert hinfix
      cases operator <;> decide

/-- A relative condition that is completed with the empty text puts a token into the query that is
neither a join marker nor an ordering or condition with a field. -/
theorem before_empty_malformed :
    ∃ token ∈ (empty.run [.field (.text "a"), .relative false (.int 2) (.text "day"),
        .before 0 (.text "")]).2.builder.tokens,
      ∀ t : Token, t.WellFormed → t.text ≠ token := by
  let begun : Draft :=
    ⟨⟨[], .text "a"⟩, [⟨.text "a", .text (knownQuantifier false), .int 2, .text "day", false⟩]⟩
  have hrun : (empty.run [.field (.text "a"), .relative false (.int 2) (.text "day"),
      .before 0 (.text "")]).2 = (begun.step (.before 0 (.text ""))).2 := rfl
  have hnumber : numberText (.int 2) = "2" := by
    simp [numberText, Value.shown, Value.inner, Numeral.intText, Numeral.ofInt, Numeral.ofNat]
    rfl
  refine ⟨bareToken, ?_, bareToken_not_wellFormed⟩
  rw [hrun, step_before_known (d := begun) (k := 0) rfl, if_neg (by decide), if_neg (by decide),
    isShowable_digit 2 (by decide), if_neg (by decide), if_neg (by decide), hnumber]
  exact List.mem_singleton_self _

end Draft

end TableClient.Query
