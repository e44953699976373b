import Mathlib.Tactic.Lemma
import Mathlib.Data.List.Basic
import TableClient.Decimal.Numeral

set_option relaxedAutoImplicit false
set_option autoImplicit false

/-!
# Numerals that are read back

The numeral of a natural number consists of digits and denotes the number, also when it is filled up
with zeros. So the numbers that are written in a text with other characters between them can be read
off it again.

## Main definitions

* `TableClient.Numeral.numbers?` — the numbers that the digits of a text denote.

## Main results

* `TableClient.Numeral.toNat?_ofNat`, `TableClient.Numeral.toNat?_padded` — numerals are read back.
* `TableClient.Numeral.numbers?_append_cons` — numbers are read off one after the other.
-/

namespace TableClient.Numeral

/-! ### Digits -/

/-- The value of a digit. -/
lemma digitValue?_digitChar {d : Nat} (h : d < 10) : digitValue? (digitChar d) = some d := by
  revert d
  decide

/-- Digits are read in two parts. -/
lemma toNatFrom?_append (acc : Nat) (cs ds : List Char) :
    toNatFrom? acc (cs ++ ds) = (toNatFrom? acc cs).bind (toNatFrom? · ds) := by
  induction cs generalizing acc with
  | nil => rfl
  | cons c cs ih =>
    rw [List.cons_append, toNatFrom?, toNatFrom?, Option.bind_assoc]
    exact congrArg _ (funext fun d => ih (acc * 10 + d))

/-- The digits of a numeral denote the number. -/
lemma toNatFrom?_ofNat (n : Nat) : toNatFrom? 0 (ofNat n) = some n := by
  induction n using Nat.strongRecOn with
  | ind n ih =>
    rw [ofNat]
    split
    · rename_i hn
      rw [toNatFrom?, digitValue?_digitChar hn, Nat.zero_mul, Option.bind_some, Nat.zero_add]
      rfl
    · have hlast : n % 10 < 10 := Nat.mod_lt n (by decide)
      rw [toNatFrom?_append, ih (n / 10) (by omega), Option.bind_some, toNatFrom?,
        digitValue?_digitChar hlast, Option.bind_some, toNatFrom?]
      exact congrArg some (by omega)

/-- Zeros in front leave what digits denote. -/
lemma toNatFrom?_zeros (count : Nat) (cs : List Char) :
    toNatFrom? 0 (List.replicate count '0' ++ cs) = toNatFrom? 0 cs := by
  induction count with
  | zero => rfl
  | succ count ih =>
    rw [List.replicate_succ, List.cons_append, toNatFrom?]
    exact ih

/-- A numeral has at least one digit. -/
lemma ofNat_ne_nil (n : Nat) : ofNat n ≠ [] := by
  rw [ofNat]
  split
  · exact List.cons_ne_nil _ _
  · exact List.append_ne_nil_of_right_ne_nil _ (List.cons_ne_nil _ _)

/-- A numeral consists of digits. -/
lemma isSome_of_mem_ofNat (n : Nat) : ∀ c ∈ ofNat n, (digitValue? c).isSome = true := by
  induction n using Nat.strongRecOn with
  | ind n ih =>
    rw [ofNat]
    split
    · rename_i hn
      rintro c hc
      obtain rfl := List.mem_singleton.1 hc
      rw [digitValue?_digitChar hn]
      rfl
    · rintro c hc
      rcases List.mem_append.1 hc with hc | hc
      · exact ih (n / 10) (by omega) c hc
      · obtain rfl := List.mem_singleton.1 hc
        rw [digitValue?_digitChar (Nat.mod_lt n (by decide))]
        rfl

/-- Digits denote a number as a whole when there are some. -/
lemma toNat?_of_ne_nil {cs : List Char} (h : cs ≠ []) : toNat? cs = toNatFrom? 0 cs := by
  cases cs with
  | nil => exact absurd rfl h
  | cons c cs => rfl

/-- **A numeral is read back.** -/
theorem toNat?_ofNat (n : Nat) : toNat? (ofNat n) = some n := by
  rw [toNat?_of_ne_nil (ofNat_ne_nil n), toNatFrom?_ofNat]

/-- **A numeral that is filled up with zeros is read back.** -/
theorem toNat?_padded (width n : Nat) : toNat? (padded width n) = some n := by
  have hne : padded width n ≠ [] := List.append_ne_nil_of_right_ne_nil _ (ofNat_ne_nil n)
  rw [toNat?_of_ne_nil hne, padded, toNatFrom?_zeros, toNatFrom?_ofNat]

/-- A numeral that is filled up with zeros consists of digits. -/
lemma isSome_of_mem_padded (width n : Nat) :
    ∀ c ∈ padded width n, (digitValue? c).isSome = true := by
  intro c hc
  rcases List.mem_append.1 hc with hc | hc
  · obtain rfl := List.eq_of_mem_replicate hc
    rfl
  · exact isSome_of_mem_ofNat n c hc

/-! ### The numbers in a text -/

/-- Whether a character is no digit. -/
def separates (c : Char) : Bool := (digitValue? c).isNone

/-- The numbers that the digits of a text denote, in order, where each character that is no digit
ends a number. -/
def numbers? (cs : List Char) : Option (List Nat) := (cs.splitOnP separates).mapM toNat?

section

variable {cs : List Char} {n : Nat}

/-- Digits do not end a number. -/
lemma separates_of_digits (h : ∀ c ∈ cs, (digitValue? c).isSome = true) :
    ∀ c ∈ cs, separates c = false := by
  intro c hc
  rw [separates, ← Option.not_isSome, h c hc]
  rfl

/-- The only number of digits. -/
lemma numbers?_of_digits (h : ∀ c ∈ cs, (digitValue? c).isSome = true) (hn : toNat? cs = some n) :
    numbers? cs = some [n] := by
  rw [numbers?, List.splitOnP_eq_singleton (separates_of_digits h), List.mapM_cons, hn]
  rfl

/-- **Numbers are read off one after the other**: that of the digits in front, and those behind the
character that ends it. -/
theorem numbers?_append_cons (h : ∀ c ∈ cs, (digitValue? c).isSome = true)
    (hn : toNat? cs = some n) {separator : Char} (hseparator : separates separator = true)
    (rest : List Char) :
    numbers? (cs ++ separator :: rest) = (numbers? rest).map (n :: ·) := by
  rw [numbers?,
    List.splitOnP_append_cons_of_forall_mem (separates_of_digits h) separator hseparator,
    List.mapM_cons, hn, numbers?]
  cases (rest.splitOnP separates).mapM toNat? <;> rfl

end

end TableClient.Numeral
