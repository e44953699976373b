import TableClient.Proofs.Query.Step

set_option relaxedAutoImplicit false
set_option autoImplicit false

/-!
# Exact acceptance of conditions and orderings

A condition or ordering is accepted exactly when the field is a non-empty text, the operands are of
the kinds of the operation, and what is written of them can be written. It then adds one token;
otherwise the first check that fails gives the reason.

## Main definitions

* `TableClient.Query.OfKind`, `TableClient.Query.SequenceOf`, `TableClient.Query.Writable` — what an
  operand may be.
* `TableClient.Query.Clause` — a condition or an ordering, with `Clause.checks`, its checks in
  order, and `Clause.spelling`, its token on a name.
* `TableClient.Query.Clause.Accepted` — when a clause is accepted on a field.

## Main results

* `TableClient.Query.Clause.firstFault_checks_eq_none_iff` — the checks pass exactly for accepted
  clauses.
* `TableClient.Query.Draft.clause_step` — what a clause does on any draft.
-/

namespace TableClient.Query

/-! ### What operands may be -/

/-- The value is of one of several kinds. -/
def OfKind (kinds : List Kind) (v : Value) : Prop := ∃ k ∈ kinds, Kind.ofValue? v = some k

/-- The value is a list or tuple of values of several kinds. -/
def SequenceOf (kinds : List Kind) (v : Value) : Prop :=
  ∃ items, elements? v = some items ∧ ∀ x ∈ items, OfKind kinds x

/-- The value can be written: a date-time lies in the years 1 to 9999 in UTC, and no integer is too
long. -/
def Writable : Value → Prop
  | .dateTime t => t.InCalendar
  | v => v.isShowable = true

/-- The value is a text with code points in it. -/
def NonEmptyText (v : Value) : Prop := ∃ name : Text, v = .text name ∧ name ≠ ""

/-- The operands of a condition are of the kinds that it accepts. -/
def Condition.Fits : Condition → Prop
  | textual _ v => OfKind Kind.textOnly v
  | bare _ => True
  | compare _ v => OfKind Kind.comparable v
  | equality _ v => OfKind Kind.textOrNumber v ∨ SequenceOf Kind.textOrNumber v
  | membership _ v => SequenceOf Kind.textOrNumber v
  | between start finish =>
    ∃ k ∈ Kind.comparable, Kind.ofValue? start = some k ∧ Kind.ofValue? finish = some k
  | ago _ amount unit => OfKind [.number] amount ∧ OfKind Kind.textOnly unit

/-- The values that are written into the token of a condition. -/
def Condition.written : Condition → List Value
  | textual _ v | compare _ v | equality _ v | membership _ v => (elements? v).getD [v]
  | bare _ => []
  | between start finish => [start, finish]
  | ago _ amount _ => [amount]

/-! ### Clauses -/

/-- A condition or an ordering. -/
inductive Clause where
  | condition (c : Condition)
  | order (descending : Bool)

namespace Clause

/-- The step that adds a clause. -/
def call : Clause → Call
  | condition c => .condition c
  | order descending => .order descending

/-- The checks of a clause on a field, in order. -/
def checks (field : Value) : Clause → List Check
  | condition c => c.checks field
  | order _ => orderChecks field

/-- The token of a clause on a field. -/
def token (field : Value) : Clause → Token
  | condition c => c.token field
  | order descending => .order descending (nameOf field)

/-- What is written for a clause on a named field: the name with the operator and the operand behind
it, or the operator of an ordering with the name behind it. -/
def spelling (name : Text) : Clause → Text
  | condition c => name ++ c.operator.tag ++ operandText c.operand
  | order descending => (orderOperator descending).tag ++ name

/-- A clause is accepted on a field. -/
def Accepted (field : Value) : Clause → Prop
  | condition c => NonEmptyText field ∧ c.Fits ∧ ∀ v ∈ c.written, Writable v
  | order _ => NonEmptyText field

end Clause

/-! ### Checks of values -/

/-- A value is of one of several kinds. -/
lemma isAmong_iff (kinds : List Kind) (v : Value) : isAmong kinds v = true ↔ OfKind kinds v := by
  unfold isAmong OfKind
  cases Kind.ofValue? v <;> simp

/-- The values of the kind of texts are the texts. -/
lemma ofKind_textOnly_iff (v : Value) : OfKind Kind.textOnly v ↔ ∃ t, v = .text t := by
  unfold OfKind
  cases v <;> simp [Kind.ofValue?, Kind.textOnly]

/-- A value is a sequence exactly when it has elements. -/
lemma ofKind_sequence_iff (v : Value) :
    OfKind [.sequence] v ↔ ∃ items, elements? v = some items := by
  unfold OfKind
  cases v <;> simp [Kind.ofValue?, elements?]

/-- A value is of one kind at most. -/
lemma OfKind.not_ofKind {kinds others : List Kind} {v : Value} (h : OfKind kinds v)
    (hne : ∀ k ∈ kinds, k ∉ others) : ¬ OfKind others v := by
  rintro ⟨k', hk', hv'⟩
  obtain ⟨k, hk, hv⟩ := h
  obtain rfl : k = k' := Option.some.inj (hv.symm.trans hv')
  exact hne k hk hk'

/-- A text has code points unless it is the empty text. -/
lemma isEmpty_iff (t : Text) : t.isEmpty = true ↔ t = "" := by
  obtain ⟨points⟩ := t
  cases points <;> simp [Text.isEmpty, Text.ofString, Text.ofChars]

/-- A field that is set and a text is a non-empty text. -/
lemma set_text_iff (field : Value) :
    (field.isTruthy = true ∧ isAmong Kind.textOnly field = true) ↔ NonEmptyText field := by
  unfold NonEmptyText
  cases field with
  | text t => simp [Value.isTruthy, isAmong, Kind.ofValue?, Kind.textOnly, ← isEmpty_iff]
  | _ => simp [isAmong, Kind.ofValue?, Kind.textOnly]

/-- The checks of what is written pass for a value that can be written. -/
lemma writtenChecks_pass_iff (v : Value) :
    (∀ c ∈ writtenChecks v, c.passes = true) ↔ Writable v := by
  cases v <;> simp [writtenChecks, numeralCheck, Writable, Value.isShowable]

/-- The checks of an operand pass when its kind is accepted and it can be written, if no sequence is
accepted. -/
lemma operandChecks_pass_iff (kinds : List Kind) (v : Value) (h : .sequence ∉ kinds) :
    (∀ c ∈ operandChecks kinds v, c.passes = true) ↔
      OfKind kinds v ∧ ∀ x ∈ (elements? v).getD [v], Writable x := by
  unfold operandChecks
  cases he : elements? v with
  | none => simp [kindCheck, isAmong_iff, writtenChecks_pass_iff]
  | some items =>
    have hseq : OfKind [.sequence] v := (ofKind_sequence_iff v).2 ⟨items, he⟩
    have hkind : ¬ OfKind kinds v := hseq.not_ofKind (by simpa using h)
    simp [h, kindCheck, isAmong_iff, hkind]

/-- The checks of a sequence pass when its elements are of the accepted kinds and can be written, if
sequences are accepted. -/
lemma operandChecks_sequence_pass_iff {kinds : List Kind} {v : Value} {items : List Value}
    (he : elements? v = some items) (h : .sequence ∈ kinds) :
    (∀ c ∈ operandChecks kinds v, c.passes = true) ↔
      (∀ x ∈ items, OfKind (kinds.filter (· ≠ .sequence)) x) ∧ ∀ x ∈ items, Writable x := by
  have hwritten : (∀ c ∈ items.flatMap writtenChecks, c.passes = true) ↔
      ∀ x ∈ items, Writable x := by
    simp only [List.forall_mem_flatMap, writtenChecks_pass_iff]
  have hkinds : (∀ c ∈ items.map (kindCheck (kinds.filter (· ≠ .sequence))), c.passes = true) ↔
      ∀ x ∈ items, OfKind (kinds.filter (· ≠ .sequence)) x := by
    simp only [List.forall_mem_map, kindCheck, isAmong_iff]
  unfold operandChecks
  simp only [he, List.contains_iff_mem, h, if_true, List.forall_mem_append]
  rw [hkinds, hwritten]

/-! ### Conditions -/

/-- Two values are of one ordered kind exactly when the check of bounds passes. -/
lemma boundsCheck_iff (start finish : Value) :
    (boundsCheck start finish).passes = true ↔ (Condition.between start finish).Fits := by
  unfold boundsCheck Condition.Fits
  rw [Bool.and_eq_true, isAmong_iff, decide_eq_true_iff]
  constructor
  · rintro ⟨⟨k, hk, hs⟩, heq⟩
    exact ⟨k, hk, hs, heq ▸ hs⟩
  · rintro ⟨k, hk, hs, hf⟩
    exact ⟨⟨k, hk, hs⟩, hs.trans hf.symm⟩

/-- The checks of a text that is put together pass. -/
lemma operandChecks_text_pass (t : Text) :
    ∀ c ∈ operandChecks Kind.textOnly (.text t), c.passes = true := by
  rw [operandChecks_pass_iff _ _ (by decide)]
  exact ⟨⟨.text, List.mem_cons_self, rfl⟩, by simp [elements?, Writable, Value.isShowable]⟩

/-- The checks of a sequence of texts and numbers pass exactly for such sequences whose elements can
be written. -/
lemma operandChecks_textOrNumberList_pass_iff {v : Value} (h : OfKind [.sequence] v) :
    (∀ c ∈ operandChecks Kind.textOrNumberList v, c.passes = true) ↔
      SequenceOf Kind.textOrNumber v ∧ ∀ x ∈ (elements? v).getD [v], Writable x := by
  obtain ⟨items, he⟩ := (ofKind_sequence_iff v).1 h
  have hfilter : Kind.textOrNumberList.filter (· ≠ .sequence) = Kind.textOrNumber := by decide
  rw [operandChecks_sequence_pass_iff he (by decide), hfilter, SequenceOf, he]
  simp

/-- Texts, numbers and sequences are the texts, the numbers and the sequences. -/
lemma ofKind_textOrNumberList_iff (v : Value) :
    OfKind Kind.textOrNumberList v ↔ OfKind Kind.textOrNumber v ∨ OfKind [.sequence] v := by
  simp [OfKind, Kind.textOrNumberList, Kind.textOrNumber, or_assoc]

/-- A sequence of values of several kinds is a sequence. -/
lemma SequenceOf.ofKind {kinds : List Kind} {v : Value} (h : SequenceOf kinds v) :
    OfKind [.sequence] v := by
  obtain ⟨items, he, -⟩ := h
  exact (ofKind_sequence_iff v).2 ⟨items, he⟩

/-- The own checks of a condition and the checks of its operand pass exactly when the operands are
of its kinds and can be written. -/
lemma Condition.operand_pass_iff (c : Condition) :
    ((∀ k ∈ c.ownChecks, k.passes = true) ∧
        ∀ k ∈ operandChecks c.accepted c.operand, k.passes = true) ↔
      c.Fits ∧ ∀ v ∈ c.written, Writable v := by
  cases c with
  | textual test v =>
    have h := operandChecks_pass_iff Kind.textOnly v (by decide)
    simpa [ownChecks, accepted, operand, Fits, written] using h
  | bare test =>
    have h := operandChecks_text_pass ""
    simpa [ownChecks, accepted, operand, Fits, written] using h
  | compare comparison v =>
    have h := operandChecks_pass_iff Kind.comparable v (by decide)
    simpa [ownChecks, accepted, operand, Fits, written] using h
  | equality negated v =>
    simp only [ownChecks, accepted, operand, Fits, written, isAmong_iff, List.forall_mem_singleton,
      ofKind_textOrNumberList_iff]
    by_cases hseq : OfKind [.sequence] v
    · have hscalar : ¬ OfKind Kind.textOrNumber v := hseq.not_ofKind (by decide)
      rw [if_pos ((isAmong_iff _ _).2 hseq), operandChecks_textOrNumberList_pass_iff hseq]
      simp [hseq, hscalar]
    · have hlist : ¬ SequenceOf Kind.textOrNumber v := mt SequenceOf.ofKind hseq
      rw [if_neg (mt (isAmong_iff _ _).1 hseq), operandChecks_pass_iff _ _ (by decide)]
      simp only [hseq, hlist, or_false]
      tauto
  | membership negated v =>
    simp only [ownChecks, accepted, operand, Fits, written, isAmong_iff, List.forall_mem_singleton]
    constructor
    · rintro ⟨hseq, h⟩
      exact (operandChecks_textOrNumberList_pass_iff hseq).1 h
    · rintro ⟨hlist, h⟩
      exact ⟨hlist.ofKind, (operandChecks_textOrNumberList_pass_iff hlist.ofKind).2 ⟨hlist, h⟩⟩
  | between start finish =>
    have htext := operandChecks_text_pass (literalText start ++ "@" ++ literalText finish)
    refine (and_iff_left htext).trans ?_
    simp [ownChecks, written, or_imp, forall_and, boundsCheck_iff, writtenChecks_pass_iff]
  | ago older amount unit =>
    have hwritable (h : OfKind [.number] amount) : Writable amount ↔ amount.isShowable = true := by
      cases amount with
      | dateTime t => simp [OfKind, Kind.ofValue?] at h
      | _ => rfl
    have htext := operandChecks_text_pass ("@" ++ nameOf unit ++ "@ago@" ++ numberText amount)
    refine (and_iff_left htext).trans ?_
    simp only [ownChecks, Fits, written, List.forall_mem_cons, List.not_mem_nil, false_imp_iff,
      implies_true, and_true, distanceCheck, numeralCheck, Bool.and_eq_true, isAmong_iff]
    refine and_congr_right fun h => ?_
    rw [hwritable h.1]

/-! ### Clauses -/

/-- **The checks pass exactly for accepted clauses.** -/
theorem Clause.firstFault_checks_eq_none_iff (c : Clause) (field : Value) :
    firstFault (c.checks field) = none ↔ c.Accepted field := by
  rw [firstFault_eq_none_iff]
  cases c with
  | condition c =>
    simp only [Clause.checks, Condition.checks, List.forall_mem_append, Clause.Accepted]
    rw [← c.operand_pass_iff, ← set_text_iff]
    simp only [fieldChecks, kindCheck, List.forall_mem_cons, List.not_mem_nil, false_imp_iff,
      implies_true, and_true]
    tauto
  | order descending =>
    simp only [Clause.checks, orderChecks, Clause.Accepted, List.forall_mem_cons, List.not_mem_nil,
      false_imp_iff, implies_true, and_true]
    exact set_text_iff field

/-- The checks, the token and the draft of a clause are those of its step. -/
lemma Clause.step_eq (c : Clause) (d : Draft) :
    d.step c.call = transact d (c.checks d.builder.field) .builder
      (d.push (c.token d.builder.field).text) := by
  cases c with
  | condition c => exact d.step_eq (.condition c)
  | order descending => exact d.step_eq (.order descending)

/-- A clause is accepted on non-empty texts only. -/
lemma Clause.Accepted.nonEmptyText {c : Clause} {field : Value} (h : c.Accepted field) :
    NonEmptyText field := by
  cases c with
  | condition c => exact h.1
  | order descending => exact h

/-- Adding the token of a clause on a named field puts what is written for the clause behind the
tokens, and leaves everything else. -/
lemma Draft.push_token_eq {d : Draft} {name : Text} (h : d.builder.field = .text name)
    (c : Clause) :
    d.push (c.token d.builder.field).text =
      ⟨⟨d.builder.tokens ++ [c.spelling name], .text name⟩, d.relatives⟩ := by
  obtain ⟨⟨tokens, field⟩, relatives⟩ := d
  obtain rfl : field = .text name := h
  cases c <;> rfl

end TableClient.Query
