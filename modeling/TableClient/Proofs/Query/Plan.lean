import TableClient.Proofs.Query.Operand

set_option relaxedAutoImplicit false
set_option autoImplicit false

/-!
# Conditions as checks and tokens

A condition has checks of its own, which look at the operands alone and come first; then the field
is looked at, and then the operand that the token ends with. The token is the field, the operator
and the text of the operand.

## Main definitions

* `TableClient.Query.Token` — the tokens of a query in parts, and `Token.text` their text.
* `TableClient.Query.Condition.checks`, `TableClient.Query.Condition.token` — the checks of a
  condition in order, and the token that it adds.

## Main results

* `TableClient.Query.Condition.plan_eq` — planning a condition comes down to its own checks.
* `TableClient.Query.run_condition`, `TableClient.Query.run_order` — adding a condition or an
  ordering is a transaction.
-/

namespace TableClient.Query

/-! ### Tokens -/

/-- A token of a query in parts. -/
inductive Token where
  | join (marker : Join)
  | order (descending : Bool) (name : Text)
  | condition (left : Text) (operator : Operator) (operand : Text)

/-- The operator of an ordering. -/
def orderOperator (descending : Bool) : Operator :=
  if descending then .orderByDescending else .orderBy

/-- The text of a token. -/
def Token.text : Token → Text
  | join marker => marker.tag
  | order descending name => (orderOperator descending).tag ++ name
  | condition left operator operand => left ++ operator.tag ++ operand

/-! ### Parts of a condition -/

/-- The bounds of a range must be of one ordered kind. -/
def boundsCheck (start finish : Value) : Check :=
  ⟨isAmong Kind.comparable start && Kind.ofValue? start = Kind.ofValue? finish,
    .unevenBounds start.typeName finish.typeName⟩

/-- A distance must be a number and the name of a unit. -/
def distanceCheck (amount unit : Value) : Check :=
  ⟨isAmong [.number] amount && isAmong Kind.textOnly unit,
    .wrongDistance amount.typeName unit.typeName⟩

/-- The checks of a condition that come before the field is looked at. -/
def Condition.ownChecks : Condition → List Check
  | textual _ _ | bare _ | compare _ _ => []
  | equality _ v => [⟨isAmong Kind.textOrNumberList v, .notComparable v.typeName⟩]
  | membership _ v => [⟨isAmong [.sequence] v, .notSequence v.typeName⟩]
  | between start finish =>
    boundsCheck start finish :: (writtenChecks start ++ writtenChecks finish)
  | ago _ amount unit => [distanceCheck amount unit, numeralCheck amount]

/-- The operator of a condition. An equality with a sequence is a membership. -/
def Condition.operator : Condition → Operator
  | textual test _ => test.operator
  | bare test => test.operator
  | compare comparison _ => comparison.operator
  | equality negated v =>
    if isAmong [.sequence] v then membershipOperator negated else equalityOperator negated
  | membership negated _ => membershipOperator negated
  | between _ _ => .between
  | ago older _ _ => if older then .relativeBefore else .relativeAfter

/-- The operand that the token of a condition ends with. -/
def Condition.operand : Condition → Value
  | textual _ v | compare _ v | equality _ v | membership _ v => v
  | bare _ => .text ""
  | between start finish => .text (literalText start ++ "@" ++ literalText finish)
  | ago _ amount unit => .text ("@" ++ nameOf unit ++ "@ago@" ++ numberText amount)

/-- The kinds that the operand of a condition may be of. -/
def Condition.accepted : Condition → List Kind
  | textual _ _ | bare _ | between _ _ | ago _ _ _ => Kind.textOnly
  | compare _ _ => Kind.comparable
  | equality _ v => if isAmong [.sequence] v then Kind.textOrNumberList else Kind.textOrNumber
  | membership _ _ => Kind.textOrNumberList

/-- A field must be set, and it must be a text. -/
def fieldChecks (field : Value) : List Check :=
  [⟨field.isTruthy, .missingField⟩, kindCheck Kind.textOnly field]

/-- The checks of a condition on a field, in order. -/
def Condition.checks (field : Value) (c : Condition) : List Check :=
  c.ownChecks ++ fieldChecks field ++ operandChecks c.accepted c.operand

/-- The token of a condition on a field. -/
def Condition.token (field : Value) (c : Condition) : Token :=
  .condition (nameOf field) c.operator (operandText c.operand)

/-! ### Plans -/

/-- A value is a scalar, whose kind is ordered, or of no ordered kind. -/
lemma scalar_or_not (v : Value) :
    (∃ s, v = Scalar.toValue s) ∨
      (Scalar.ofValue? v = none ∧ isAmong Kind.comparable v = false) := by
  cases v with
  | text t => exact .inl ⟨.text t, rfl⟩
  | int n => exact .inl ⟨.int n, rfl⟩
  | float x => exact .inl ⟨.float x, rfl⟩
  | dateTime t => exact .inl ⟨.dateTime t, rfl⟩
  | _ => exact .inr ⟨rfl, rfl⟩

@[simp] lemma ofValue?_toValue (s : Scalar) : Scalar.ofValue? s.toValue = some s := by
  cases s <;> rfl

@[simp] lemma kind_toValue (s : Scalar) : Kind.ofValue? s.toValue = some s.kind := by
  cases s <;> rfl

@[simp] lemma isAmong_comparable_toValue (s : Scalar) :
    isAmong Kind.comparable s.toValue = true := by
  cases s <;> rfl

/-- Both bounds of a range are written behind the checks of the range. -/
lemma encodeBounds_eq (start finish : Value) :
    encodeBounds start finish =
      guarded (boundsCheck start finish :: (writtenChecks start ++ writtenChecks finish))
        (literalText start ++ "@" ++ literalText finish) := by
  rw [guarded_cons]
  obtain ⟨a, rfl⟩ | ⟨hs, ha⟩ := scalar_or_not start
  · obtain ⟨b, rfl⟩ | ⟨hf, hb⟩ := scalar_or_not finish
    · by_cases hk : a.kind = b.kind
      · rw [if_pos (by simp [boundsCheck, hk])]
        simp only [encodeBounds, ofValue?_toValue, hk, if_true, literal_eq]
        exact guarded_bind fun _ => guarded_map _
      · rw [if_neg (by simp [boundsCheck, hk])]
        simp only [encodeBounds, ofValue?_toValue, hk, if_false]
        rfl
    · have hne : some a.kind ≠ Kind.ofValue? finish := by
        intro h
        rw [isAmong, ← h] at hb
        cases a <;> cases hb
      rw [if_neg (by simp [boundsCheck, hne])]
      simp only [encodeBounds, ofValue?_toValue, hf]
      rfl
  · rw [if_neg (by simp [boundsCheck, ha])]
    simp only [encodeBounds, hs]
    rfl

/-- A distance is accepted behind its check. -/
lemma checkDistance_eq (amount unit : Value) :
    checkDistance amount unit = guarded [distanceCheck amount unit] (nameOf unit) := by
  unfold checkDistance distanceCheck isAmong
  rw [guarded_singleton]
  rcases Kind.ofValue? amount with _ | ⟨_ | _ | _ | _⟩ <;> cases unit <;> rfl

/-- **Planning a condition comes down to its own checks.** -/
theorem Condition.plan_eq (c : Condition) :
    c.plan = guarded c.ownChecks ⟨c.operator, c.operand, c.accepted⟩ := by
  cases c with
  | textual | bare | compare => rfl
  | equality negated v | membership negated v =>
    rw [Condition.plan, Condition.ownChecks, guarded_singleton]
    cases v <;> rfl
  | between start finish =>
    rw [Condition.plan, encodeBounds_eq]
    exact guarded_map _
  | ago older amount unit =>
    rw [Condition.plan, checkDistance_eq]
    change _ = guarded ([distanceCheck amount unit] ++ [numeralCheck amount]) _
    refine guarded_bind fun _ => ?_
    rw [writeNumber, written_eq]
    exact guarded_map _

/-! ### Actions -/

/-- Requiring a field is a transaction without a change. -/
lemma run_requireField (v : Value) (d : Draft) :
    (Action.requireField v).run d = transact d [⟨v.isTruthy, .missingField⟩] () d := by
  unfold Action.requireField transact firstFault
  cases v.isTruthy <;> rfl

/-- Adding a token is a transaction: the field that must be set, the text before the operator and
the operand are checked in this order. -/
lemma run_append (required left : Value) (plan : Plan) (d : Draft) :
    (Action.append required left plan).run d =
      transact d (⟨required.isTruthy, .missingField⟩ :: kindCheck Kind.textOnly left ::
          operandChecks plan.accepted plan.operand) ()
        (d.push (Token.condition (nameOf left) plan.operator (operandText plan.operand)).text) := by
  have hwrite (name : Text) :
      (do
        let operand ← liftExcept (encode plan.accepted plan.operand)
        modify (·.push (name ++ plan.operator.tag ++ operand)) : Action Unit).run d =
      transact d (operandChecks plan.accepted plan.operand) ()
        (d.push (Token.condition name plan.operator (operandText plan.operand)).text) := by
    rw [encode_eq]
    exact run_liftExcept_modify fun operand s => s.push (name ++ plan.operator.tag ++ operand)
  refine run_bind_of_check (run_requireField required d) ?_
  cases left with
  | text name => exact hwrite name
  | _ => rfl

/-- The own checks of a condition come first, then those of the field, then those of the
operand. -/
theorem run_condition (c : Condition) (d : Draft) :
    (Action.condition c).run d =
      transact d (c.checks d.builder.field) () (d.push (c.token d.builder.field).text) := by
  unfold Action.condition Condition.checks
  rw [c.plan_eq, List.append_assoc]
  refine run_bind_of_check run_liftExcept_guarded ?_
  exact run_append _ _ ⟨c.operator, c.operand, c.accepted⟩ d

/-- An ordering needs a field that is a text. -/
def orderChecks (field : Value) : List Check :=
  [⟨field.isTruthy, .missingField⟩, ⟨isAmong Kind.textOnly field, .unorderableField⟩]

/-- Adding an ordering is a transaction. -/
theorem run_order (descending : Bool) (d : Draft) :
    (Action.order descending).run d =
      transact d (orderChecks d.builder.field) ()
        (d.push (Token.order descending (nameOf d.builder.field)).text) := by
  unfold Action.order
  change (Action.requireField d.builder.field >>= _).run d = _
  refine run_bind_of_check (run_requireField _ d) ?_
  cases hf : d.builder.field with
  | text name => rfl
  | _ => rfl

end TableClient.Query
