/-!
# Decimal numerals

The canonical decimal numeral of a number: no leading zeros, and a minus sign for numbers below
zero only. The reader beside the writer accepts any non-empty run of the ten ASCII digits.

## Main definitions

* `TableClient.Numeral.ofNat`, `TableClient.Numeral.ofInt` — numerals as lists of characters.
* `TableClient.Numeral.toNat?` — the number that a run of digits denotes.
* `TableClient.Numeral.padded` — a numeral filled up with zeros on the left.
-/

set_option relaxedAutoImplicit false
set_option autoImplicit false

namespace TableClient.Numeral

/-- The digit character of a number below ten. -/
def digitChar (d : Nat) : Char := Char.ofNat (48 + d)

/-- The value of an ASCII digit. -/
def digitValue? (c : Char) : Option Nat :=
  if '0' ≤ c ∧ c ≤ '9' then some (c.toNat - 48) else none

/-- The numeral of a natural number, most significant digit first. -/
def ofNat (n : Nat) : List Char :=
  if n < 10 then [digitChar n] else ofNat (n / 10) ++ [digitChar (n % 10)]
termination_by n

/-- The numeral of an integer. -/
def ofInt : Int → List Char
  | .ofNat n => ofNat n
  | .negSucc n => '-' :: ofNat (n + 1)

/-- The value of the digits read after the value `acc`. -/
def toNatFrom? (acc : Nat) : List Char → Option Nat
  | [] => some acc
  | c :: cs => (digitValue? c).bind fun d => toNatFrom? (acc * 10 + d) cs

/-- The number that a non-empty run of digits denotes. -/
def toNat? : List Char → Option Nat
  | [] => none
  | cs => toNatFrom? 0 cs

/-- The numeral filled up with zeros on the left to at least the given width. -/
def padded (width n : Nat) : List Char :=
  let digits := ofNat n
  List.replicate (width - digits.length) '0' ++ digits

/-- The numeral of a natural number as text. -/
def natText (n : Nat) : String := String.ofList (ofNat n)

/-- The numeral of an integer as text. -/
def intText (n : Int) : String := String.ofList (ofInt n)

end TableClient.Numeral
