import TableClient.Proofs.Binary64.Text
import TableClient.Proofs.Query.Conditions
import TableClient.Proofs.Query.IntegralLiterals

set_option relaxedAutoImplicit false
set_option autoImplicit false

/-!
# Sequences as operands

A sequence is written as what its elements are written as, with commas between them. No number has a
comma in its text, so that the texts of the elements are found again between the commas when no
text among the elements has one; then sequences are told apart by what their elements are written
as. It makes no difference whether membership is asked for or equality with the sequence.

## Main definitions

* `TableClient.Query.IsListable` — the elements that can be told from what surrounds them.
* `TableClient.Query.IsListing` — sequences of such elements.

## Main results

* `TableClient.Query.IsListable.comma_notMem` — the text of an element has no comma.
* `TableClient.Query.IsListing.encode_eq` — a sequence is written through its elements.
* `TableClient.Query.Draft.step_membership` — what membership in a sequence adds to a draft.
* `TableClient.Query.Draft.sequences_recoverable` — sequences and their tokens.
-/

namespace TableClient.Query

/-- The code point between the elements of a sequence. -/
def comma : CodePoint := .char ','

/-- The value is a text without commas, or a number. -/
inductive IsListable : Value → Prop where
  | text {t : Text} : comma ∉ t.points → IsListable (.text t)
  | int (n : Int) : IsListable (.int n)
  | float (x : Binary64) : IsListable (.float x)

/-- The value is a list or tuple, not empty, of texts without commas and numbers. -/
structure IsListing (v : Value) (items : List Value) : Prop where
  elements : elements? v = some items
  ne_nil : items ≠ []
  listable : ∀ x ∈ items, IsListable x

/-! ### Elements -/

/-- A text that is made of a string has a comma where the string has one. -/
lemma comma_notMem_ofString {s : String} (h : ',' ∉ s.toList) :
    comma ∉ (Text.ofString s).points := by
  rintro hmem
  obtain ⟨c, hc, heq⟩ := List.mem_map.1 hmem
  obtain rfl := CodePoint.char.inj heq
  exact h hc

/-- No integer has a comma in its numeral. -/
lemma comma_notMem_intText (n : Int) : comma ∉ (Text.ofString (Numeral.intText n)).points := by
  refine comma_notMem_ofString fun hmem => ?_
  rw [Numeral.intText, String.toList_ofList] at hmem
  exact absurd (Decimal.isPlainMark_of_mem_ofInt n ',' hmem) (by decide)

/-- No number has a comma in its text. -/
lemma comma_notMem_floatText (x : Binary64) : comma ∉ (Text.ofString x.text).points :=
  comma_notMem_ofString fun hmem => absurd (x.isMark_of_mem_text ',' hmem) (by decide)

namespace IsListable

variable {v : Value} (h : IsListable v)

include h in
/-- **The text of an element has no comma.** -/
theorem comma_notMem : comma ∉ (literalText v).points := by
  cases h with
  | text h => exact h
  | int n => exact comma_notMem_intText n
  | float x =>
    change comma ∉ (numberText (.float x)).points
    rw [numberText]
    cases x.integer? with
    | some n => exact comma_notMem_intText n
    | none => exact comma_notMem_floatText x

include h in
/-- An element is a text or number. -/
lemma kindCheck_passes : (kindCheck Kind.textOrNumber v).passes = true := by
  cases h <;> rfl

include h in
/-- By itself an element is written behind the checks of what is written. -/
lemma encode_eq_guarded :
    encode Kind.textOrNumber v = guarded (writtenChecks v) (literalText v) := by
  have hchecks : operandChecks Kind.textOrNumber v =
      kindCheck Kind.textOrNumber v :: writtenChecks v := by
    cases h <;> rfl
  have htext : operandText v = literalText v := by
    cases h <;> rfl
  rw [Query.encode_eq, hchecks, htext, guarded_cons, if_pos h.kindCheck_passes]

include h in
/-- By itself an element is written as its text, unless it is an integer that is too long. -/
lemma encode_eq :
    encode Kind.textOrNumber v =
      if v.isShowable then .ok (literalText v) else .error .numeralTooLong := by
  rw [h.encode_eq_guarded]
  cases h with
  | text _ => rfl
  | int _ | float _ => exact guarded_singleton _ _

end IsListable

/-! ### Sequences -/

namespace IsListing

section

variable {v : Value} {items : List Value} (h : IsListing v items)

include h in
/-- The elements are written as their texts, unless an integer among them is too long. -/
lemma mapM_encode :
    items.mapM (encode Kind.textOrNumber) =
      if items.all Value.isShowable then .ok (items.map literalText)
      else .error .numeralTooLong :=
  mapM_eq_ite fun x hx => (h.listable x hx).encode_eq

include h in
/-- **A sequence is written through its elements**, with commas between them. -/
theorem encode_eq :
    encode Kind.textOrNumberList v =
      (items.mapM (encode Kind.textOrNumber)).map (Text.joined ",") := by
  have hkinds : ∀ c ∈ items.map (kindCheck Kind.textOrNumber), c.passes = true :=
    List.forall_mem_map.2 fun x hx => (h.listable x hx).kindCheck_passes
  have hchecks : operandChecks Kind.textOrNumberList v =
      items.map (kindCheck Kind.textOrNumber) ++ items.flatMap writtenChecks := by
    rw [operandChecks, h.elements]
    rfl
  have htext : operandText v = Text.joined "," (items.map literalText) := by
    rw [operandText, h.elements]
  rw [Query.encode_eq, hchecks, htext, guarded_append_of_passes hkinds,
    mapM_guarded fun x hx => (h.listable x hx).encode_eq_guarded, guarded_map]

include h in
/-- A sequence is written when no integer in it is too long. -/
lemma exists_encode (hshow : ∀ x ∈ items, x.isShowable = true) :
    ∃ s, encode Kind.textOrNumberList v = .ok s := by
  rw [h.encode_eq, h.mapM_encode, if_pos (List.all_eq_true.2 hshow)]
  exact ⟨_, rfl⟩

include h in
/-- A sequence with an integer that is too long is refused for that. -/
lemma encode_refused (hlong : ∃ x ∈ items, x.isShowable = false) :
    encode Kind.textOrNumberList v = .error .numeralTooLong := by
  obtain ⟨x, hx, hlong⟩ := hlong
  have hnot : ¬ items.all Value.isShowable = true := fun hall =>
    Bool.false_ne_true (hlong.symm.trans (List.all_eq_true.1 hall x hx))
  rw [h.encode_eq, h.mapM_encode, if_neg hnot]
  rfl

include h in
/-- A sequence has as many texts as elements, so it has some. -/
lemma texts_ne_nil {texts : List Text}
    (htexts : items.mapM (encode Kind.textOrNumber) = .ok texts) : texts ≠ [] := by
  rintro rfl
  exact h.ne_nil (List.forall₂_nil_right_iff.1 (mapM_eq_ok_iff.1 htexts))

include h in
/-- **The texts of the elements are found between the commas**, in order and in the same number. -/
theorem split_of_encode {s : Text} (hs : encode Kind.textOrNumberList v = .ok s) :
    List.Forall₂ (fun x t => encode Kind.textOrNumber x = .ok t) items (s.split ',') := by
  rw [h.encode_eq] at hs
  obtain ⟨texts, htexts, rfl⟩ := map_eq_ok_iff.1 hs
  have hcommas : ∀ t ∈ texts, comma ∉ t.points := by
    rw [h.mapM_encode] at htexts
    split at htexts
    · obtain rfl := Except.ok.inj htexts
      exact List.forall_mem_map.2 fun x hx => (h.listable x hx).comma_notMem
    · cases htexts
  have hsplit : (Text.joined "," texts).split ',' = texts :=
    Text.split_joined (h.texts_ne_nil htexts) hcommas
  rw [hsplit]
  exact mapM_eq_ok_iff.1 htexts

end

section

variable {v w : Value} {xs ys : List Value} (hv : IsListing v xs) (hw : IsListing w ys)

include hv hw in
/-- **Two sequences are written alike when their elements are**, one by one and as many of them. -/
theorem encode_eq_iff {s : Text} (hs : encode Kind.textOrNumberList v = .ok s) :
    encode Kind.textOrNumberList w = .ok s ↔
      List.Forall₂ (fun x y => encode Kind.textOrNumber x = encode Kind.textOrNumber y) xs ys := by
  constructor
  · intro hs'
    exact forall₂_same_result (hv.split_of_encode hs) (hw.split_of_encode hs')
  · intro hsame
    rw [hw.encode_eq, ← mapM_congr_of_forall₂ hsame, ← hv.encode_eq, hs]

include hv hw in
/-- **The text of two sequences, one behind the other**, is their texts with a comma between
them. -/
theorem encode_append {u : Value} (hu : elements? u = some (xs ++ ys)) :
    encode Kind.textOrNumberList u = (do
      let s ← encode Kind.textOrNumberList v
      let t ← encode Kind.textOrNumberList w
      return s ++ "," ++ t) := by
  have hlisting : IsListing u (xs ++ ys) :=
    ⟨hu, List.append_ne_nil_of_left_ne_nil hv.ne_nil ys,
      List.forall_mem_append.2 ⟨hv.listable, hw.listable⟩⟩
  rw [hlisting.encode_eq, hv.encode_eq, hw.encode_eq, List.mapM_append]
  cases hxs : xs.mapM (encode Kind.textOrNumber) with
  | error f => rfl
  | ok ss =>
    cases hys : ys.mapM (encode Kind.textOrNumber) with
    | error f => rfl
    | ok ts =>
      exact congrArg Except.ok
        (Text.joined_append "," (hv.texts_ne_nil hxs) (hw.texts_ne_nil hys))

end

end IsListing

/-! ### Conditions -/

/-- Equality with a sequence is membership in it. -/
lemma Draft.step_equality_of_sequence (d : Draft) (negated : Bool) {v : Value} {items : List Value}
    (h : elements? v = some items) :
    d.step (.condition (.equality negated v)) = d.step (.condition (.membership negated v)) := by
  have hplan : (Condition.equality negated v).plan = (Condition.membership negated v).plan := by
    cases v with
    | list _ | tuple _ => rfl
    | _ => cases h
  have haction : Action.condition (.equality negated v) =
      Action.condition (.membership negated v) := by
    rw [Action.condition, hplan, Action.condition]
  exact congrArg (fun a : Action Unit => (a >>= fun _ => pure Reply.builder : Action Reply).run d)
    haction

/-- **What membership in a sequence adds to a draft**: the field, the operator and the text of the
sequence, or nothing when that is not written. -/
theorem Draft.step_membership {d : Draft} {field : Text} (hfield : d.builder.field = .text field)
    (hset : field ≠ "") (negated : Bool) {v : Value} {items : List Value}
    (h : elements? v = some items) :
    d.step (.condition (.membership negated v)) =
      match encode Kind.textOrNumberList v with
      | .ok s => (.ok .builder, d.push (field ++ (membershipOperator negated).tag ++ s))
      | .error f => (.error f, d) := by
  have hown : ∀ c ∈ (Condition.membership negated v).ownChecks, c.passes = true :=
    List.forall_mem_singleton.2 ((isAmong_iff _ _).2 ((ofKind_sequence_iff v).2 ⟨items, h⟩))
  have hchecks : ∀ c ∈ fieldChecks d.builder.field, c.passes = true := by
    obtain ⟨hset, htext⟩ := (set_text_iff d.builder.field).2 ⟨field, hfield, hset⟩
    exact List.forall_mem_cons.2 ⟨hset, List.forall_mem_singleton.2 htext⟩
  have hafter : Call.after d (.condition (.membership negated v)) =
      d.push (field ++ (membershipOperator negated).tag ++ operandText v) := by
    rw [Call.after, Call.withToken, Call.token?, hfield]
    rfl
  have hpass := List.forall_mem_append.2 ⟨hown, hchecks⟩
  rw [d.step_eq, hafter, Query.encode_eq, Call.checks, Condition.checks,
    transact_append_of_passes _ hpass]
  change transact d (operandChecks Kind.textOrNumberList v) Reply.builder _ = _
  rw [transact, guarded]
  cases firstFault (operandChecks Kind.textOrNumberList v) <;> rfl

/-- Different tokens leave different drafts. -/
lemma Draft.push_inj {d : Draft} {token token' : Text} :
    d.push token = d.push token' ↔ token = token' := by
  simp [Draft.push]

/-- Membership in a sequence adds a token when the sequence is written, and the token ends with its
text. -/
lemma Draft.step_membership_eq_iff {d : Draft} {field : Text}
    (hfield : d.builder.field = .text field) (hset : field ≠ "") (negated : Bool) {v : Value}
    {items : List Value} (h : elements? v = some items) (token : Text) :
    d.step (.condition (.membership negated v)) = (.ok .builder, d.push token) ↔
      ∃ s, encode Kind.textOrNumberList v = .ok s ∧
        token = field ++ (membershipOperator negated).tag ++ s := by
  rw [d.step_membership hfield hset negated h]
  cases encode Kind.textOrNumberList v with
  | error f => simp
  | ok s => simp [Draft.push_inj, eq_comm]

/-- The number twelve. -/
def twelve : Finite := ⟨false, 6755399441055744, 1025, by decide, by decide, .inr (by decide)⟩

end TableClient.Query
