import Mathlib.Algebra.Group.Nat.Defs
import Mathlib.Data.Char
import Mathlib.Data.List.Lex
import Mathlib.Tactic.Tauto
import TableClient.Proofs.Decimal.Numeral

set_option relaxedAutoImplicit false
set_option autoImplicit false

/-!
# The order of numerals

Numerals of one length are ordered as texts the way their numbers are. A numeral that is shorter
than another one, and ends at a character that comes before all digits, is compared with as many
digits of the other one; so it comes first unless these digits, from the front, denote a smaller
number. That happens although the shorter numeral denotes the smaller number of the two.

## Main definitions

* `TableClient.Numeral.Overtakes` — a larger number begins with a smaller one of the same length.

## Main results

* `TableClient.Numeral.length_ofNat_le_iff` — the length of a numeral.
* `TableClient.Numeral.ofNat_lt_iff` — numerals of one length.
* `TableClient.Numeral.ofNat_append_ordered_iff` — texts that begin with numerals of any length.
-/

namespace TableClient.Numeral

/-! ### Texts in two parts -/

/-- Lists in two parts, the first of which are equally long, are compared part by part. -/
lemma append_lt_append_iff {α : Type} [LT α] {as bs : List α} (h : as.length = bs.length)
    (xs ys : List α) : as ++ xs < bs ++ ys ↔ as < bs ∨ as = bs ∧ xs < ys := by
  induction as generalizing bs with
  | nil =>
    obtain rfl : bs = [] := List.length_eq_zero_iff.1 h.symm
    simp [List.not_lt_nil]
  | cons a as ih =>
    cases bs with
    | nil => cases h
    | cons b bs =>
      have hlength : as.length = bs.length := Nat.succ.inj h
      rw [List.cons_append, List.cons_append, List.cons_lt_cons_iff, List.cons_lt_cons_iff,
        ih hlength, List.cons.injEq]
      tauto

/-! ### Digits -/

/-- Digits are ordered as their values. -/
lemma digitChar_lt_iff {d e : Nat} (hd : d < 10) (he : e < 10) :
    digitChar d < digitChar e ↔ d < e := by
  have hall : ∀ d < 10, ∀ e < 10, (digitChar d < digitChar e ↔ d < e) := by decide
  exact hall d hd e he

/-- Different values have different digits. -/
lemma digitChar_inj {d e : Nat} (hd : d < 10) (he : e < 10) :
    digitChar d = digitChar e ↔ d = e := by
  have hall : ∀ d < 10, ∀ e < 10, (digitChar d = digitChar e ↔ d = e) := by decide
  exact hall d hd e he

/-- Digits do not come before the digit zero. -/
lemma zero_le_of_digit {c : Char} (h : (digitValue? c).isSome = true) : '0' ≤ c := by
  unfold digitValue? at h
  split at h
  · rename_i hrange
    exact hrange.1
  · cases h

/-! ### Numerals -/

/-- The numeral of a number below ten is its digit. -/
lemma ofNat_of_lt {n : Nat} (h : n < 10) : ofNat n = [digitChar n] := by
  rw [ofNat, if_pos h]

/-- The last digit of a numeral stands behind the numeral of the tenth. -/
lemma ofNat_of_le {n : Nat} (h : 10 ≤ n) :
    ofNat n = ofNat (n / 10) ++ [digitChar (n % 10)] := by
  rw [ofNat, if_neg (by omega)]

/-- The numeral of a number from ten on is one longer than that of its tenth. -/
lemma length_ofNat_of_le {n : Nat} (h : 10 ≤ n) :
    (ofNat n).length = (ofNat (n / 10)).length + 1 := by
  rw [ofNat_of_le h, List.length_append, List.length_singleton]

/-- **The length of a numeral.** -/
theorem length_ofNat_le_iff (n k : Nat) : (ofNat n).length ≤ k + 1 ↔ n < 10 ^ (k + 1) := by
  induction k generalizing n with
  | zero =>
    have hpositive := List.length_pos_iff.2 (ofNat_ne_nil (n / 10))
    by_cases hn : n < 10
    · simp [ofNat_of_lt hn, hn]
    · rw [length_ofNat_of_le (by omega)]
      omega
  | succ k ih =>
    have hpow : 10 ^ (k + 1 + 1) = 10 ^ (k + 1) * 10 := Nat.pow_succ 10 (k + 1)
    by_cases hn : n < 10
    · have hlarge : 1 ≤ 10 ^ (k + 1) := Nat.one_le_pow _ _ (by decide)
      rw [ofNat_of_lt hn, List.length_singleton]
      omega
    · rw [length_ofNat_of_le (by omega), Nat.succ_le_succ_iff, ih]
      omega

/-- Larger numbers have numerals that are at least as long. -/
lemma length_ofNat_mono {m n : Nat} (h : m ≤ n) : (ofNat m).length ≤ (ofNat n).length := by
  obtain ⟨k, hk⟩ := Nat.exists_eq_add_one.2 (List.length_pos_iff.2 (ofNat_ne_nil n))
  have hn := (length_ofNat_le_iff n k).1 (Nat.le_of_eq hk)
  rw [hk, length_ofNat_le_iff]
  omega

/-- Different numbers have different numerals. -/
lemma ofNat_injective : Function.Injective ofNat := by
  intro m n h
  have hread := toNat?_ofNat m
  rw [h, toNat?_ofNat] at hread
  exact (Option.some.inj hread).symm

/-- **Numerals of one length are ordered as their numbers.** -/
theorem ofNat_lt_iff {m n : Nat} (h : (ofNat m).length = (ofNat n).length) :
    ofNat m < ofNat n ↔ m < n := by
  induction m using Nat.strongRecOn generalizing n with
  | ind m ih =>
    have hm := List.length_pos_iff.2 (ofNat_ne_nil (m / 10))
    have hn := List.length_pos_iff.2 (ofNat_ne_nil (n / 10))
    by_cases hsmall : m < 10
    · have hsmall' : n < 10 := by
        by_contra hlarge
        rw [ofNat_of_lt hsmall, length_ofNat_of_le (by omega), List.length_singleton] at h
        omega
      rw [ofNat_of_lt hsmall, ofNat_of_lt hsmall', List.cons_lt_cons_iff,
        digitChar_lt_iff hsmall hsmall']
      simp
    · have hlarge : 10 ≤ m := by omega
      have hlarge' : 10 ≤ n := by
        by_contra hsmall'
        rw [ofNat_of_lt (by omega : n < 10), length_ofNat_of_le hlarge,
          List.length_singleton] at h
        omega
      rw [length_ofNat_of_le hlarge, length_ofNat_of_le hlarge'] at h
      have hlength : (ofNat (m / 10)).length = (ofNat (n / 10)).length := by omega
      have hdigit : m % 10 < 10 := Nat.mod_lt m (by decide)
      have hdigit' : n % 10 < 10 := Nat.mod_lt n (by decide)
      rw [ofNat_of_le hlarge, ofNat_of_le hlarge', append_lt_append_iff hlength,
        ih (m / 10) (by omega) hlength, ofNat_injective.eq_iff, List.cons_lt_cons_iff,
        digitChar_lt_iff hdigit hdigit']
      simp only [List.lt_irrefl, and_false, or_false]
      omega

/-- A numeral begins with the numeral of what is left without its last digits. -/
lemma exists_ofNat_append {n k : Nat} (h : k < (ofNat n).length) :
    ∃ ds, ofNat n = ofNat (n / 10 ^ k) ++ ds ∧ ds.length = k ∧
      ∀ c ∈ ds, (digitValue? c).isSome = true := by
  induction k with
  | zero => exact ⟨[], by simp, rfl, by simp⟩
  | succ k ih =>
    obtain ⟨ds, hds, hlength, hdigits⟩ := ih (by omega)
    have hlong : 10 ≤ n / 10 ^ k := by
      by_contra hshort
      rw [hds, List.length_append, ofNat_of_lt (by omega), List.length_singleton] at h
      omega
    have hdigit : n / 10 ^ k % 10 < 10 := Nat.mod_lt _ (by decide)
    refine ⟨digitChar (n / 10 ^ k % 10) :: ds, ?_, by rw [List.length_cons, hlength], ?_⟩
    · rw [hds, ofNat_of_le hlong, Nat.div_div_eq_div_mul, ← Nat.pow_succ, List.append_assoc]
      rfl
    · intro c hc
      rcases List.mem_cons.1 hc with rfl | hc
      · rw [digitValue?_digitChar hdigit]
        rfl
      · exact hdigits c hc

/-! ### Texts that begin with numerals -/

/-- A number is less than another one, but larger than as many digits of that one from the front as
it has itself. -/
def Overtakes (m n : Nat) : Prop :=
  m < n ∧ n / 10 ^ ((ofNat n).length - (ofNat m).length) < m

section

variable {m n : Nat} {separator : Char} (h : separator < '0') (xs ys : List Char)

/-- Texts that begin with numerals of one length are ordered by their numbers first. -/
lemma ofNat_append_lt_iff (hlength : (ofNat m).length = (ofNat n).length) :
    ofNat m ++ separator :: xs < ofNat n ++ separator :: ys ↔ m < n ∨ m = n ∧ xs < ys := by
  rw [append_lt_append_iff hlength, ofNat_lt_iff hlength, ofNat_injective.eq_iff,
    List.cons_lt_cons_self]

include h in
/-- A text that begins with a numeral is compared by as many digits of a longer one. -/
lemma ofNat_append_lt_of_length_lt (hlength : (ofNat m).length < (ofNat n).length) :
    (ofNat m ++ separator :: xs < ofNat n ++ separator :: ys ↔
        m ≤ n / 10 ^ ((ofNat n).length - (ofNat m).length)) ∧
      (ofNat n ++ separator :: ys < ofNat m ++ separator :: xs ↔
        n / 10 ^ ((ofNat n).length - (ofNat m).length) < m) := by
  have hpositive := List.length_pos_iff.2 (ofNat_ne_nil m)
  obtain ⟨ds, hds, hrest, hdigits⟩ := @exists_ofNat_append n
    ((ofNat n).length - (ofNat m).length) (by omega)
  generalize n / 10 ^ ((ofNat n).length - (ofNat m).length) = front at hds ⊢
  have hfront : (ofNat m).length = (ofNat front).length := by
    have hparts := congrArg List.length hds
    rw [List.length_append] at hparts
    omega
  obtain ⟨d, ds, rfl⟩ := List.exists_cons_of_length_pos (l := ds) (by omega)
  -- the shorter numeral has ended where the longer one has another digit
  have hends : separator < d := lt_of_lt_of_le h <|
    zero_le_of_digit (hdigits d List.mem_cons_self)
  rw [hds, List.append_assoc, List.cons_append, append_lt_append_iff hfront,
    append_lt_append_iff hfront.symm, ofNat_lt_iff hfront, ofNat_lt_iff hfront.symm,
    ofNat_injective.eq_iff, ofNat_injective.eq_iff, List.cons_lt_cons_iff, List.cons_lt_cons_iff]
  have hnot : ¬ d < separator := not_lt_of_gt hends
  have hne : d ≠ separator := ne_of_gt hends
  simp only [hends, hnot, hne, true_or, false_and, or_self, and_true, and_false, or_false]
  omega

/-- Texts that begin with numerals are ordered as their numbers and, where these are the same, as
what follows. -/
def Ordered (m n : Nat) (xs ys text text' : List Char) : Prop :=
  (text < text' ↔ m < n ∨ m = n ∧ xs < ys) ∧ (text' < text ↔ n < m ∨ n = m ∧ ys < xs)

include h in
/-- The order of texts that begin with numerals, the second of which is longer. -/
lemma ordered_iff_of_length_lt (hlength : (ofNat m).length < (ofNat n).length) :
    Ordered m n xs ys (ofNat m ++ separator :: xs) (ofNat n ++ separator :: ys) ↔
      ¬ Overtakes m n ∧ ¬ Overtakes n m := by
  have hless : m < n := by
    by_contra hle
    have := length_ofNat_mono (Nat.le_of_not_lt hle)
    omega
  obtain ⟨hlt, hgt⟩ := ofNat_append_lt_of_length_lt h xs ys hlength
  rw [Ordered, hlt, hgt, Overtakes, Overtakes]
  have hne : m ≠ n := by omega
  simp only [hless, hne, hne.symm, false_and, or_false, iff_true, true_and, Nat.not_lt_of_gt hless,
    not_false_iff, and_true, iff_false]
  omega

include h in
/-- **Texts that begin with numerals are ordered as they should be unless one of the numbers
overtakes the other.** -/
theorem ofNat_append_ordered_iff :
    Ordered m n xs ys (ofNat m ++ separator :: xs) (ofNat n ++ separator :: ys) ↔
      ¬ Overtakes m n ∧ ¬ Overtakes n m := by
  rcases Nat.lt_trichotomy (ofNat m).length (ofNat n).length with hlt | heq | hgt
  · exact ordered_iff_of_length_lt h xs ys hlt
  · refine iff_of_true ⟨ofNat_append_lt_iff xs ys heq, ofNat_append_lt_iff ys xs heq.symm⟩ ?_
    simp only [Overtakes, heq, Nat.sub_self, Nat.pow_zero, Nat.div_one]
    omega
  · rw [and_comm (a := ¬ Overtakes m n), ← ordered_iff_of_length_lt h ys xs hgt]
    exact and_comm

end

end TableClient.Numeral
