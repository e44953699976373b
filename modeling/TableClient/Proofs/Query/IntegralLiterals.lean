import TableClient.Proofs.Binary64.Integral
import TableClient.Proofs.Decimal.Canonical
import TableClient.Query.Operand

set_option relaxedAutoImplicit false
set_option autoImplicit false

/-!
# Literals of integers

A number whose value is an integer is written as the canonical numeral of that integer, whether it
is given as an integer or as a floating-point number. What counts is the exact value: the number
nearest to `10 ^ 23` is written with the 23 digits that it has, and not as a power of ten, and the
negative zero is written as zero. An integer is refused when it has too many digits; a finite number
never has that many.

## Main definitions

* `TableClient.Query.IsIntegral` — the numbers that have the value of an integer and a numeral.

## Main results

* `TableClient.Query.IsIntegral.writeNumber_eq` — they are written as their numerals.
* `TableClient.Query.integral_literals_exact` — their literals are canonical, are read back, and are
  the same for equal numbers only.
-/

namespace TableClient.Query

/-- The value is a number of the exact value of an integer, and as an integer it is not too long to
be written. -/
inductive IsIntegral : Value → Int → Prop where
  | int {n : Int} : Value.hasNumeral n = true → IsIntegral (.int n) n
  | float {x : Finite} {n : Int} : x.value = n → IsIntegral (.float (.finite x)) n

/-- An integer is not too long when its numeral is short enough to be read. -/
lemma hasNumeral_iff (n : Int) :
    Value.hasNumeral n = true ↔ (Numeral.ofNat n.natAbs).length ≤ Decimal.maxIntDigits :=
  decide_eq_true_iff

/-- What is below a power of two is below as large a power of ten. -/
lemma lt_ten_pow_of_lt_twoTo {k e f : Nat} (h : k < twoTo e) (he : e ≤ f) : k < 10 ^ f :=
  calc
    k < 2 ^ e := h
    _ ≤ 10 ^ e := Nat.pow_le_pow_left (by decide) e
    _ ≤ 10 ^ f := Nat.pow_le_pow_right (by decide) he

/-- Integers of the size of finite numbers are not too long to be written. -/
lemma hasNumeral_of_natAbs_lt {n : Int} (h : n.natAbs < twoTo 1024) :
    Value.hasNumeral n = true := by
  rw [hasNumeral_iff]
  exact (Numeral.length_ofNat_le_iff n.natAbs 4299).2 (lt_ten_pow_of_lt_twoTo h (by decide))

namespace IsIntegral

variable {v : Value} {n : Int} (h : IsIntegral v n)

include h in
/-- The numeral of the value is not too long. -/
lemma hasNumeral : Value.hasNumeral n = true := by
  cases h with
  | int h => exact h
  | float h => exact hasNumeral_of_natAbs_lt (Finite.natAbs_lt_of_value_eq h)

include h in
/-- The literal is the numeral of the exact value. -/
lemma numberText_eq : numberText v = .ofChars (Numeral.ofInt n) := by
  have htext : Text.ofString (Numeral.intText n) = .ofChars (Numeral.ofInt n) := by
    rw [Text.ofString, Numeral.intText, String.toList_ofList]
  cases h with
  | int _ => exact htext
  | float h =>
    have hint : (Binary64.finite _).integer? = some n := Finite.integer?_eq_some_iff.2 h
    rw [numberText, hint]
    exact htext

include h in
/-- **The value is written as the numeral of its exact value.** -/
theorem writeNumber_eq : writeNumber v = .ok (.ofChars (Numeral.ofInt n)) := by
  have hshowable : v.isShowable = true := by
    cases h with
    | int h => exact h
    | float _ => rfl
  rw [writeNumber, written, if_pos hshowable, h.numberText_eq]

include h in
/-- As an operand the value is written in the same way, wherever numbers are accepted. -/
lemma encode_eq_writeNumber {accepted : List Kind} (haccepted : .number ∈ accepted) :
    encode accepted v = writeNumber v := by
  have hcontains : accepted.contains .number = true := List.contains_iff_mem.2 haccepted
  cases h with
  | int _ | float _ =>
    simp only [encode, elements?, accept, Scalar.ofValue?, Scalar.kind, hcontains, if_true]
    rfl

end IsIntegral

/-- **Literals of integers are exact and canonical.** A number that has the value of an integer, and
is not too long to be written, is written as a canonical numeral that is read as this integer, and
there is no other one; it is written so as an operand too. The literals of two such numbers are the
same exactly when the numbers are equal.

**Proof sketch.** The exact value of a finite number is the integer that is written
(`Finite.integer?_eq_some_iff`), and it is small enough to be read. The numeral of an integer is the
only canonical one (`Numeral.canonical_and_reads_iff`), so that equal numerals have equal values. -/
theorem integral_literals_exact {v w : Value} {n m : Int} (hv : IsIntegral v n)
    (hw : IsIntegral w m) {accepted : List Kind} (haccepted : .number ∈ accepted) :
    (∃ cs, writeNumber v = .ok (.ofChars cs) ∧ Numeral.Canonical cs ∧
        Decimal.lenientInt? (.ofChars cs) = some n ∧
        ∀ ds, Numeral.Canonical ds → Decimal.lenientInt? (.ofChars ds) = some n → ds = cs) ∧
      encode accepted v = writeNumber v ∧
      (encode accepted v = encode accepted w ↔ n = m) := by
  have hnumeral := Numeral.canonical_and_reads_iff ((hasNumeral_iff n).1 hv.hasNumeral)
  have hnumeral' := Numeral.canonical_and_reads_iff ((hasNumeral_iff m).1 hw.hasNumeral)
  refine ⟨⟨_, hv.writeNumber_eq, ?_⟩, hv.encode_eq_writeNumber haccepted, ?_⟩
  · obtain ⟨hcanonical, hread⟩ := (hnumeral _).2 rfl
    exact ⟨hcanonical, hread, fun ds hds hreads => (hnumeral ds).1 ⟨hds, hreads⟩⟩
  · rw [hv.encode_eq_writeNumber haccepted, hw.encode_eq_writeNumber haccepted,
      hv.writeNumber_eq, hw.writeNumber_eq]
    constructor
    · intro h
      have hsame := Text.ofChars_injective (Except.ok.inj h)
      have hread := ((hnumeral _).2 rfl).2
      rw [hsame, ((hnumeral' _).2 rfl).2] at hread
      exact (Option.some.inj hread).symm
    · rintro rfl
      rfl

/-- The number nearest to `10 ^ 23`, which is less than that. -/
def nearTenTo23 : Finite :=
  ⟨false, 5960464477539062, 1098, by decide, by decide, .inr (by decide)⟩

/-- The number nearest to `10 ^ 23` is written as the integer that it is exactly, and the negative
zero as zero. -/
theorem integral_literals_exact_near_power :
    let n : Int := 99999999999999991611392
    IsIntegral (.float (.finite nearTenTo23)) n ∧ IsIntegral (.int n) n ∧
      encode Kind.textOrNumber (.float (.finite nearTenTo23)) =
        encode Kind.textOrNumber (.int n) ∧
      IsIntegral (.float (.finite (.zero true))) 0 ∧
      encode Kind.textOrNumber (.float (.finite (.zero true))) ≠
        encode Kind.textOrNumber (.int n) := by
  intro n
  have hfloat : IsIntegral (.float (.finite nearTenTo23)) n :=
    .float (Finite.integer?_eq_some_iff.1 (by decide +kernel))
  have hint : IsIntegral (.int n) n := .int (hasNumeral_of_natAbs_lt (by decide +kernel))
  have hzero : IsIntegral (.float (.finite (.zero true))) 0 :=
    .float (Finite.integer?_eq_some_iff.1 (by decide +kernel))
  have haccepted : Kind.number ∈ Kind.textOrNumber := by decide
  refine ⟨hfloat, hint, ?_, hzero, fun h => ?_⟩
  · exact (integral_literals_exact hfloat hint haccepted).2.2.2 rfl
  · exact absurd ((integral_literals_exact hzero hint haccepted).2.2.1 h) (by decide)

end TableClient.Query
