import Mathlib.Data.List.Basic
import TableClient.Proofs.Calendar
import TableClient.Proofs.Query.Check

set_option relaxedAutoImplicit false
set_option autoImplicit false

/-!
# Operands as checks and texts

The text of an operand is given as a function of the value alone, and writing an operand comes down
to checks in a fixed order: the kinds of all values first, and then, value by value, whether it can
be written.

## Main definitions

* `TableClient.Query.literalText`, `TableClient.Query.operandText` — the text of a value, and of an
  operand, inside a token.
* `TableClient.Query.isAmong` — whether a value is of one of several kinds.
* `TableClient.Query.kindCheck`, `TableClient.Query.writtenChecks` — the checks of a value.
* `TableClient.Query.operandChecks` — the checks of an operand.

## Main results

* `TableClient.Query.encode_eq` — writing an operand is its text behind its checks.
-/

namespace TableClient.Query

/-! ### Texts -/

/-- The text that a value is, and the empty text if it is none. -/
def nameOf (v : Value) : Text := v.text?.getD ""

/-- The text of a single value inside a token. -/
def literalText : Value → Text
  | .text t => t
  | .dateTime t => (dateTimeText? t).getD ""
  | v => numberText v

/-- The text of an operand inside a token: a sequence is the texts of its elements with commas
between them. -/
def operandText (v : Value) : Text :=
  match elements? v with
  | some items => Text.joined "," (items.map literalText)
  | none => literalText v

/-! ### Checks -/

/-- Whether a value is of one of several kinds. -/
def isAmong (accepted : List Kind) (v : Value) : Bool := (Kind.ofValue? v).any accepted.contains

/-- A value must be of an accepted kind. -/
def kindCheck (accepted : List Kind) (v : Value) : Check :=
  ⟨isAmong accepted v, .wrongKind accepted v.typeName⟩

/-- A value that is written must not contain an integer with too many digits. -/
def numeralCheck (v : Value) : Check := ⟨v.isShowable, .numeralTooLong⟩

/-- A value that is written must be short enough as a number, and as a date-time it must lie inside
the calendar. -/
def writtenChecks : Value → List Check
  | .text _ => []
  | .dateTime t => [⟨t.InCalendar, .instantOutOfRange⟩]
  | v => [numeralCheck v]

/-- The checks of an operand. All elements of a sequence are of an accepted kind before the first of
them is written. -/
def operandChecks (accepted : List Kind) (v : Value) : List Check :=
  match elements? v with
  | some items =>
    if accepted.contains .sequence then
      items.map (kindCheck (accepted.filter (· ≠ .sequence))) ++ items.flatMap writtenChecks
    else [kindCheck accepted v]
  | none => kindCheck accepted v :: writtenChecks v

/-! ### Writing -/

/-- A value is written behind the check of its integers. -/
lemma written_eq (text : Value → Text) (v : Value) :
    written text v = guarded [numeralCheck v] (text v) := by
  rw [guarded_singleton]
  rfl

/-- A date-time has a text exactly inside the calendar. -/
lemma isSome_dateTimeText?_iff (t : DateTime) :
    (dateTimeText? t).isSome = true ↔ t.InCalendar := by
  rw [← t.isSome_utc?_iff]
  simp [dateTimeText?]

/-- A scalar is written behind the checks of its value. -/
lemma literal_eq (s : Scalar) :
    s.literal = guarded (writtenChecks s.toValue) (literalText s.toValue) := by
  cases s with
  | text t => rfl
  | int n => exact written_eq numberText (.int n)
  | float x => exact written_eq numberText (.float x)
  | dateTime t =>
    simp only [Scalar.literal, Scalar.toValue, writtenChecks, literalText]
    rw [guarded_singleton]
    have h := isSome_dateTimeText?_iff t
    cases hs : dateTimeText? t with
    | none =>
      rw [hs] at h
      simp [← h]
    | some s =>
      rw [hs] at h
      simp [← h]

/-- The scalar that a value is, and the empty text if it is none. -/
def scalarOf (v : Value) : Scalar := (Scalar.ofValue? v).getD (.text "")

section Scalars

variable {accepted : List Kind} {v : Value} (h : elements? v = none ∨ .sequence ∉ accepted)

include h in
/-- A value of an accepted kind is a scalar, unless it is a sequence and sequences are accepted. -/
lemma toValue_scalarOf (hpass : (kindCheck accepted v).passes = true) :
    (scalarOf v).toValue = v := by
  cases v with
  | text t | int n | float x | dateTime t => rfl
  | list items | tuple items =>
    rcases h with h | h
    · cases h
    · exact absurd (List.contains_iff_mem.1 hpass) h
  | _ => cases hpass

include h in
/-- A value is accepted as a scalar behind the check of its kind. -/
lemma accept_eq : accept accepted v = guarded [kindCheck accepted v] (scalarOf v) := by
  rw [guarded_singleton]
  cases v with
  | list items | tuple items =>
    rcases h with h | h
    · cases h
    · simp [accept, Scalar.ofValue?, kindCheck, isAmong, Kind.ofValue?, h]
  | _ => rfl

end Scalars

/-- The elements of a sequence, all of an accepted kind, are written behind their checks. -/
lemma mapM_literal {accepted : List Kind} {items : List Value} (hseq : .sequence ∉ accepted)
    (hkinds : ∀ x ∈ items, (kindCheck accepted x).passes = true) :
    (items.map scalarOf).mapM Scalar.literal =
      guarded (items.flatMap writtenChecks) (items.map literalText) := by
  have hvalue : ∀ x ∈ items, (scalarOf x).toValue = x := fun x hx =>
    toValue_scalarOf (.inr hseq) (hkinds x hx)
  rw [mapM_guarded fun s _ => literal_eq s, List.flatMap_map, List.map_map]
  congr 1
  · exact List.flatMap_congr fun x hx => by rw [hvalue x hx]
  · exact List.map_congr_left fun x hx => by rw [Function.comp_apply, hvalue x hx]

/-- **Writing an operand is its text behind its checks.**

**Proof sketch.** For a sequence, the elements are accepted one after the other behind the checks of
their kinds (`accept_eq`), and only then written behind the checks of their values
(`mapM_literal`). -/
theorem encode_eq (accepted : List Kind) (v : Value) :
    encode accepted v = guarded (operandChecks accepted v) (operandText v) := by
  unfold encode operandChecks operandText
  cases he : elements? v with
  | none =>
    dsimp only
    rw [accept_eq (.inl he)]
    change _ = guarded ([kindCheck accepted v] ++ writtenChecks v) _
    refine guarded_bind fun hpass => ?_
    have hkind := (firstFault_eq_none_iff _).1 hpass _ List.mem_cons_self
    rw [literal_eq, toValue_scalarOf (.inl he) hkind]
  | some items =>
    dsimp only
    split
    · have hseq : Kind.sequence ∉ accepted.filter (· ≠ .sequence) := by simp
      rw [mapM_guarded fun x _ => accept_eq (v := x) (.inr hseq), ← List.map_eq_flatMap]
      refine guarded_bind fun hpass => ?_
      have hkinds : ∀ x ∈ items, (kindCheck (accepted.filter (· ≠ .sequence)) x).passes = true :=
        fun x hx => (firstFault_eq_none_iff _).1 hpass _ (List.mem_map_of_mem hx)
      rw [mapM_literal hseq hkinds]
      exact guarded_map _
    · rename_i hacc
      have hkind : (kindCheck accepted v).passes = false := by
        cases v with
        | list | tuple => simpa [kindCheck, isAmong, Kind.ofValue?] using hacc
        | _ => cases he
      rw [guarded_singleton, hkind]
      rfl

end TableClient.Query
