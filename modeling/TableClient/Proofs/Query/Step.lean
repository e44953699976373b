import TableClient.Proofs.Query.Plan

set_option relaxedAutoImplicit false
set_option autoImplicit false

/-!
# Steps as transactions

Every step of a query is described by its checks, the token that it adds, what it answers and the
draft that it leaves. A step is then taken as a whole when its checks pass and refused as a whole
otherwise, whatever order of checks and effects its action has.

## Main definitions

* `TableClient.Query.Relative.checks`, `TableClient.Query.Relative.token` — completing a relative
  condition.
* `TableClient.Query.Call.checks`, `Call.token?`, `Call.reply`, `Call.after` — the description of a
  step on a draft.

## Main results

* `TableClient.Query.Draft.step_eq` — every step is the transaction of its description.
* `TableClient.Query.Draft.step_cases` — a step is taken or refused, and refused without a trace.
* `TableClient.Query.Draft.tokens_after` — a step adds at most its token.
-/

namespace TableClient.Query

/-! ### Relative conditions -/

namespace Relative

/-- The operator that the quantifier of a relative condition stands for. Only known quantifiers
matter, as others fail a check. -/
def operator (r : Relative) : Operator := (Action.relativeOperator? r.quantifier).getD .moreThan

/-- The operand of a relative condition: the captured field and the distance. -/
def operand (r : Relative) : Text :=
  r.field.shown ++ "@" ++ r.unit.shown ++ "@before@" ++ numberText r.amount

/-- The token that completes a relative condition. -/
def token (r : Relative) (second : Value) : Token :=
  .condition (nameOf second) r.operator r.operand

/-- The checks of completing a relative condition while `current` is the field of the builder. -/
def checks (r : Relative) (current second : Value) : List Check :=
  [⟨!r.completed, .alreadyCompleted⟩, ⟨current.isTruthy, .missingField⟩, numeralCheck r.field,
    numeralCheck r.unit, numeralCheck r.amount,
    ⟨(Action.relativeOperator? r.quantifier).isSome, .unknownQuantifier⟩,
    ⟨r.field.isTruthy, .missingField⟩, kindCheck Kind.textOnly second]

end Relative

/-- The relative condition that is begun on the current field of a draft. -/
def Draft.newRelative (d : Draft) (quantifier amount unit : Value) : Relative :=
  ⟨d.builder.field, quantifier, amount, unit, false⟩

/-- A quantifier in capitals, or as it is if it has none. -/
def capitals (quantifier : Value) : Value := (Action.capitals? quantifier).getD quantifier

/-- The quantifier of a known relative condition. -/
def knownQuantifier (less : Bool) : Text := if less then "LESS" else "MORE"

/-- The operator of a known relative condition. -/
def knownOperator (less : Bool) : Operator := if less then .lessThanRelative else .moreThan

/-! ### The description of a step -/

namespace Call

/-- The checks of a step, in order. -/
def checks (d : Draft) : Call → List Check
  | .field _ | .join _ => []
  | .condition c => c.checks d.builder.field
  | .order _ => orderChecks d.builder.field
  | .relative _ amount unit =>
    [distanceCheck amount unit, ⟨relativeUnits.contains (nameOf unit), .unknownUnit (nameOf unit)⟩]
  | .relativeParts quantifier _ _ =>
    [⟨(Action.capitals? quantifier).isSome, .quantifierNotText⟩]
  | .before index second =>
    match d.relatives[index]? with
    | some r => r.checks d.builder.field second
    | none => [⟨false, .noSuchRelative⟩]
  | .showRelative index => [⟨d.relatives[index]?.isSome, .noSuchRelative⟩]
  | .build => [⟨!d.builder.tokens.isEmpty, .emptyQuery⟩]

/-- The token that a step adds, if it adds one. -/
def token? (d : Draft) : Call → Option Token
  | .condition c => some (c.token d.builder.field)
  | .order descending => some (.order descending (nameOf d.builder.field))
  | .join marker => some (.join marker)
  | .before index second => d.relatives[index]?.map (·.token second)
  | .field _ | .relative _ _ _ | .relativeParts _ _ _ | .showRelative _ | .build => none

/-- What a step answers. -/
def reply (d : Draft) : Call → Reply
  | .relative less amount unit =>
    .relative (d.newRelative (.text (knownQuantifier less)) amount unit)
  | .relativeParts quantifier amount unit =>
    .relative (d.newRelative (capitals quantifier) amount unit)
  | .showRelative index => (d.relatives[index]?.map Reply.relative).getD .builder
  | .build => .encoded d.builder.encoded
  | .field _ | .condition _ | .order _ | .join _ | .before _ _ => .builder

/-- The draft with the token of a step added, if it adds one. -/
def withToken (d : Draft) (c : Call) : Draft :=
  match c.token? d with
  | some token => d.push token.text
  | none => d

/-- The draft that a step leaves. -/
def after (d : Draft) (c : Call) : Draft :=
  match c with
  | .field name => { d with builder := { d.builder with field := name } }
  | .relative less amount unit =>
    d.begin (d.newRelative (.text (knownQuantifier less)) amount unit)
  | .relativeParts quantifier amount unit =>
    d.begin (d.newRelative (capitals quantifier) amount unit)
  | .before index _ => (c.withToken d).complete index
  | .condition _ | .order _ | .join _ | .showRelative _ | .build => c.withToken d

end Call

/-! ### Actions -/

/-- The operand of a relative condition is written behind the checks of its numerals. -/
lemma relativeOperand_eq (r : Relative) :
    Action.relativeOperand r =
      guarded [numeralCheck r.field, numeralCheck r.unit, numeralCheck r.amount] r.operand := by
  unfold Action.relativeOperand writeNumber
  rw [written_eq, written_eq, written_eq]
  change _ = guarded ([_] ++ ([_] ++ [_])) _
  exact guarded_bind fun _ => guarded_bind fun _ => guarded_map _

/-- The token of a known quantifier is added behind the checks of the captured field and of the
second one. -/
lemma run_append_relative {r : Relative} {operator : Operator} (second : Value) (d : Draft)
    (h : Action.relativeOperator? r.quantifier = some operator) :
    (Action.append r.field second ⟨operator, .text r.operand, Kind.textOnly⟩).run d =
      transact d [⟨r.field.isTruthy, .missingField⟩, kindCheck Kind.textOnly second] ()
        (d.push (r.token second).text) := by
  rw [run_append, Relative.token, Relative.operator, h]
  change transact d ([_, _] ++ [kindCheck Kind.textOnly (.text r.operand)]) _ _ = _
  unfold transact
  rw [firstFault_concat_of_passes _ rfl]
  rfl

/-- A relative condition is looked up without a change of the draft. -/
lemma run_relative (index : Nat) (d : Draft) :
    (Action.relative index).run d = match d.relatives[index]? with
      | some r => (.ok r, d)
      | none => (.error .noSuchRelative, d) := by
  change (match d.relatives[index]? with
    | some r => pure r
    | none => throw Fault.noSuchRelative : Action Relative).run d = _
  cases d.relatives[index]? <;> rfl

/-- Completing a relative condition is a transaction. -/
lemma run_before {d : Draft} {index : Nat} {r : Relative} (second : Value)
    (h : d.relatives[index]? = some r) :
    (Action.before index second).run d =
      transact d (r.checks d.builder.field second) ()
        ((d.push (r.token second).text).complete index) := by
  have hget : (Action.relative index).run d = transact d [] r d := by
    rw [run_relative, h]
    rfl
  unfold Action.before Relative.checks
  refine run_bind_of_check hget ?_
  cases r.completed with
  | true => rfl
  | false =>
    change (Action.requireField d.builder.field >>= fun _ => _).run d =
      transact d ([_] ++ ([_, _, _] ++ [_, _, _])) _ _
    refine run_bind_of_check (run_requireField _ d) ?_
    rw [relativeOperand_eq]
    refine run_bind_of_check run_liftExcept_guarded ?_
    cases ho : Action.relativeOperator? r.quantifier with
    | none => rfl
    | some operator => exact run_bind_of_commit (run_append_relative second d ho) rfl

/-- Without the relative condition, completing it is refused. -/
lemma run_before_of_none {d : Draft} {index : Nat} (second : Value)
    (h : d.relatives[index]? = none) :
    (Action.before index second).run d = (.error .noSuchRelative, d) := by
  rw [Action.before, run_bind, run_relative, h]

/-- Beginning a relative condition needs a quantifier that can be put in capitals. -/
lemma run_beginRelative (quantifier amount unit : Value) (d : Draft) :
    (Action.beginRelative quantifier amount unit).run d =
      transact d [⟨(Action.capitals? quantifier).isSome, .quantifierNotText⟩]
        (d.newRelative (capitals quantifier) amount unit)
        (d.begin (d.newRelative (capitals quantifier) amount unit)) := by
  unfold Action.beginRelative capitals
  cases Action.capitals? quantifier <;> rfl

/-- Beginning a known relative condition is a transaction. -/
lemma run_beginKnownRelative (less : Bool) (amount unit : Value) (d : Draft) :
    (Action.beginKnownRelative less amount unit).run d =
      transact d [distanceCheck amount unit,
          ⟨relativeUnits.contains (nameOf unit), .unknownUnit (nameOf unit)⟩]
        (d.newRelative (.text (knownQuantifier less)) amount unit)
        (d.begin (d.newRelative (.text (knownQuantifier less)) amount unit)) := by
  have hcapitals : capitals (.text (if less then "less" else "more")) =
      .text (knownQuantifier less) := by
    cases less <;> rfl
  unfold Action.beginKnownRelative
  rw [checkDistance_eq]
  change _ = transact d ([_] ++ [_]) _ _
  refine run_bind_of_check run_liftExcept_guarded ?_
  cases hunit : relativeUnits.contains (nameOf unit) with
  | false => rfl
  | true =>
    rw [if_pos rfl, run_beginRelative, hcapitals]
    rfl

/-! ### Steps -/

/-- **Every step is the transaction of its description.** -/
theorem Draft.step_eq (d : Draft) (c : Call) :
    d.step c = transact d (c.checks d) (c.reply d) (c.after d) := by
  cases c with
  | field name => rfl
  | join marker => rfl
  | condition c => exact run_bind_of_commit (run_condition c d) rfl
  | order descending => exact run_bind_of_commit (run_order descending d) rfl
  | relative less amount unit =>
    exact run_bind_of_commit (run_beginKnownRelative less amount unit d) rfl
  | relativeParts quantifier amount unit =>
    exact run_bind_of_commit (run_beginRelative quantifier amount unit d) rfl
  | before index second =>
    cases h : d.relatives[index]? with
    | some r =>
      simp only [Call.checks, Call.reply, Call.after, Call.withToken, Call.token?, h]
      exact run_bind_of_commit (run_before second h) rfl
    | none =>
      simp only [Call.checks, Call.reply, Call.after, Call.withToken, Call.token?, h]
      change (Action.before index second >>= _).run d = _
      rw [run_bind, run_before_of_none second h]
      rfl
  | showRelative index =>
    change (Action.relative index >>= _).run d = _
    rw [run_bind, run_relative]
    dsimp only [Call.checks, Call.reply]
    cases d.relatives[index]? <;> rfl
  | build =>
    change (liftExcept d.builder.build >>= fun text => pure (Reply.encoded text) :
      Action Reply).run d = _
    have hbuild : d.builder.build = guarded [⟨!d.builder.tokens.isEmpty, .emptyQuery⟩]
        d.builder.encoded := by
      rw [Builder.build, guarded_singleton]
      cases d.builder.tokens.isEmpty <;> rfl
    rw [hbuild]
    exact run_bind_of_commit run_liftExcept_guarded rfl

/-- A step is either taken, when all its checks pass, or refused for the reason of the first check
that fails. -/
theorem Draft.step_cases (d : Draft) (c : Call) :
    (firstFault (c.checks d) = none ∧ d.step c = (.ok (c.reply d), c.after d)) ∨
      ∃ f, firstFault (c.checks d) = some f ∧ d.step c = (.error f, d) := by
  rw [d.step_eq c, transact]
  cases firstFault (c.checks d) with
  | none => exact .inl ⟨rfl, rfl⟩
  | some f => exact .inr ⟨f, rfl, rfl⟩

/-- **A step adds at most its token** behind the tokens that are there. -/
theorem Draft.tokens_after (d : Draft) (c : Call) :
    (c.after d).builder.tokens = d.builder.tokens ++ (c.token? d).toList.map Token.text := by
  cases c with
  | before index second =>
    cases h : d.relatives[index]? <;>
      simp [Call.after, Call.withToken, Call.token?, h, Draft.push, Draft.complete]
  | _ => simp [Call.after, Call.withToken, Call.token?, Draft.push, Draft.begin]

/-- Building a draft leaves it as it is. -/
lemma Draft.step_build (d : Draft) : d.step .build = (d.builder.build.map .encoded, d) := by
  rw [d.step_eq, transact, Builder.build]
  cases h : d.builder.tokens.isEmpty <;> simp [Call.checks, Call.reply, Call.after,
    Call.withToken, Call.token?, firstFault, h, Except.map]

end TableClient.Query
