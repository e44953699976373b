import Mathlib.Algebra.Field.Rat
import Mathlib.Algebra.GroupWithZero.Basic
import Mathlib.Data.Rat.Cast.Order
import TableClient.Binary64.Basic

set_option relaxedAutoImplicit false
set_option autoImplicit false

/-!
# Numbers that are integers

A finite number is a fraction whose denominator is a power of two. It is an integer when this power
divides out, and then it has exactly the value of that integer, which may have more binary digits
than the mantissa. Both zeros have the value zero.

## Main definitions

* `TableClient.Finite.value` — the exact value of a finite number.

## Main results

* `TableClient.Finite.integer?_eq_some_iff` — when a finite number is an integer, and which.
* `TableClient.Finite.natAbs_lt_of_value_eq` — how large an integer it can be.
-/

namespace TableClient.Finite

/-- The exact value of a finite number. -/
def value (x : Finite) : ℚ :=
  (if x.negative then -1 else 1) * x.mantissa * 2 ^ ((x.scale : ℤ) - 1074)

variable {x : Finite} {n : Int}

/-- A power of two as a fraction. -/
lemma cast_twoTo (e : Nat) : ((twoTo e : Nat) : ℚ) = 2 ^ e := Nat.cast_pow 2 e

lemma twoTo_pos (e : Nat) : 0 < twoTo e := Nat.pow_pos (by decide)

lemma twoTo_add (d e : Nat) : twoTo (d + e) = twoTo d * twoTo e := Nat.pow_add 2 d e

/-- A product with a power of two is bounded through its factors. -/
lemma mul_twoTo_lt {m d e f : Nat} (hm : m < twoTo d) (he : e ≤ f) :
    m * twoTo e < twoTo (d + f) := by
  rw [twoTo_add]
  exact Nat.mul_lt_mul_of_lt_of_le hm (Nat.pow_le_pow_right (by decide) he) (twoTo_pos f)

/-- The value is that of the units, of which a power of two makes one. -/
lemma value_eq (x : Finite) : x.value = x.signedUnits / (twoTo 1074 : Nat) := by
  rw [value, signedUnits, units, zpow_sub₀ two_ne_zero, zpow_natCast, zpow_ofNat, ← cast_twoTo,
    ← cast_twoTo]
  generalize twoTo 1074 = one
  cases x.negative <;> simp [mul_div_assoc, neg_div]

/-- A number has the value of an integer when it is as many times the units of one. -/
lemma value_eq_iff : x.value = n ↔ x.signedUnits = n * (twoTo 1074 : Nat) := by
  have hone : ((twoTo 1074 : Nat) : ℚ) ≠ 0 := Nat.cast_ne_zero.2 (twoTo_pos 1074).ne'
  rw [value_eq, div_eq_iff hone]
  generalize twoTo 1074 = one
  exact_mod_cast Iff.rfl

/-- The units of a number that has the value of an integer, without the sign. -/
lemma units_of_value_eq (h : x.value = n) : x.units = n.natAbs * twoTo 1074 := by
  have habs := congrArg Int.natAbs (value_eq_iff.1 h)
  rw [Int.natAbs_mul, Int.natAbs_natCast] at habs
  rw [← habs, signedUnits]
  cases x.negative <;> simp

/-- **When a finite number is an integer**: when it has the value of that integer. -/
theorem integer?_eq_some_iff : x.integer? = some n ↔ x.value = n := by
  rw [integer?]
  split
  · rename_i hmod
    obtain ⟨k, hk⟩ := Nat.dvd_of_mod_eq_zero hmod
    have hone := twoTo_pos 1074
    rw [value_eq_iff, signedUnits, hk, Nat.mul_div_cancel_left k hone]
    generalize twoTo 1074 = one at hone ⊢
    cases x.negative <;> simp [mul_comm _ (k : ℤ), ← neg_mul, hone.ne']
  · rename_i hmod
    refine iff_of_false (fun h => nomatch h) fun h => hmod ?_
    rw [units_of_value_eq h, Nat.mul_mod_left]

/-- **How large an integer can be.** -/
theorem natAbs_lt_of_value_eq (h : x.value = n) : n.natAbs < twoTo 1024 := by
  have hunits : x.units < twoTo (53 + 2045) := mul_twoTo_lt x.mantissa_lt x.scale_le
  rw [show 53 + 2045 = 1024 + 1074 by decide, twoTo_add, units_of_value_eq h] at hunits
  exact Nat.lt_of_mul_lt_mul_right hunits

end TableClient.Finite
