/-!
# Binary floating-point numbers of 64 bits

The numbers of the binary64 format in unpacked form. A finite number is a sign, a mantissa below
`2 ^ 53` and a scale, with the value `± mantissa * 2 ^ scale / 2 ^ 1074`; it is kept normal, that
is, the scale is zero unless the mantissa uses all 53 bits, so equal numbers other than the two
zeros have equal representations.

All arithmetic is exact arithmetic on natural numbers followed by one rounding step, which picks
the nearest representable number and the even mantissa of two equally near ones.

## Main definitions

* `TableClient.Finite`, `TableClient.Binary64` — the numbers.
* `TableClient.roundDiv` — a quotient rounded to the nearest natural number, ties to even.
* `TableClient.Binary64.nearest` — the number nearest to a quotient of natural numbers.
* `TableClient.Binary64.ofDecimal` — the number nearest to `± digits * 10 ^ exponent`.
* `TableClient.Binary64.integer?` — the exact integer that the number is, if it is one.
* `TableClient.Binary64.sub`, `TableClient.Binary64.roundPlaces` — difference, and rounding to a
  number of decimal places.
-/

set_option relaxedAutoImplicit false
set_option autoImplicit false

namespace TableClient

/-- A power of two. -/
abbrev twoTo (exponent : Nat) : Nat := Nat.pow 2 exponent

/-- A power of ten. -/
abbrev tenTo (exponent : Nat) : Nat := Nat.pow 10 exponent

/-- A finite number, of value `± mantissa * 2 ^ scale / 2 ^ 1074`. -/
structure Finite where
  negative : Bool
  mantissa : Nat
  scale : Nat
  mantissa_lt : mantissa < twoTo 53
  scale_le : scale ≤ 2045
  normal : scale = 0 ∨ twoTo 52 ≤ mantissa
deriving DecidableEq

/-- A number of the binary64 format. -/
inductive Binary64 where
  | finite (x : Finite)
  | infinite (negative : Bool)
  | notANumber
deriving DecidableEq

/-- The quotient `num / den` rounded to the nearest natural number, ties to the even one. -/
def roundDiv (num den : Nat) : Nat :=
  let q := num / den
  let twice := 2 * (num % den)
  if twice < den then q
  else if twice = den ∧ q % 2 = 0 then q
  else q + 1

namespace Finite

/-- The magnitude in units of `2 ^ (-1074)`. -/
def units (x : Finite) : Nat := x.mantissa * twoTo x.scale

/-- The value in units of `2 ^ (-1074)`. -/
def signedUnits (x : Finite) : Int := if x.negative then -(x.units : Int) else x.units

/-- The zero of the given sign. -/
def zero (negative : Bool) : Finite := ⟨negative, 0, 0, by decide, by decide, .inl rfl⟩

/-- The exact integer that the number is, if it is one. -/
def integer? (x : Finite) : Option Int :=
  if x.units % twoTo 1074 = 0 then
    let n : Int := (x.units / twoTo 1074 : Nat)
    some (if x.negative then -n else n)
  else none

end Finite

namespace Binary64

/-- The finite number with the given parts, or infinity when they exceed the format. -/
def ofParts (negative : Bool) (mantissa scale : Nat) : Binary64 :=
  if h : mantissa < twoTo 53 ∧ scale ≤ 2045 ∧ (scale = 0 ∨ twoTo 52 ≤ mantissa) then
    .finite ⟨negative, mantissa, scale, h.1, h.2.1, h.2.2⟩
  else .infinite negative

/-- The number nearest to `± num / den`, for `den` not zero. The scale is the least one at which
the mantissa has at most 53 bits; rounding up to `2 ^ 53` moves to the next scale. -/
def nearest (negative : Bool) (num den : Nat) : Binary64 :=
  let units := num * twoTo 1074
  let scale := (units / den).log2 + 1 - 53
  let mantissa := roundDiv units (den * twoTo scale)
  if mantissa = twoTo 53 then ofParts negative (twoTo 52) (scale + 1)
  else ofParts negative mantissa scale

/-- The number nearest to a whole number of units of `2 ^ (-1074)`. -/
def ofUnits (n : Int) : Binary64 := nearest (decide (n < 0)) n.natAbs (twoTo 1074)

/-- The number nearest to an integer. -/
def ofInt (n : Int) : Binary64 := nearest (decide (n < 0)) n.natAbs 1

/-- How many decimal digits the number has. -/
def digitCount (n : Nat) : Nat :=
  if n < 10 then 1 else digitCount (n / 10) + 1
termination_by n

/-- The number nearest to `± digits * 10 ^ exponent`. Numbers of magnitude `10 ^ 310` and more are
infinite and those below `10 ^ (-330)` are zero, whatever their digits. -/
def ofDecimal (negative : Bool) (digits : Nat) (exponent : Int) : Binary64 :=
  if digits = 0 then .finite (.zero negative)
  else
    let magnitude := exponent + digitCount digits
    if 310 < magnitude then .infinite negative
    else if magnitude < -330 then .finite (.zero negative)
    else if 0 ≤ exponent then nearest negative (digits * tenTo exponent.toNat) 1
    else nearest negative digits (tenTo (-exponent).toNat)

/-- The exact integer that the number is, if it is one. -/
def integer? : Binary64 → Option Int
  | .finite x => x.integer?
  | _ => none

/-- Whether the number is above zero. -/
def isPositive : Binary64 → Bool
  | .finite x => 0 < x.signedUnits
  | .infinite negative => !negative
  | .notANumber => false

/-- Whether the number is a zero of either sign. -/
def isZero : Binary64 → Bool
  | .finite x => x.mantissa == 0
  | _ => false

/-- The difference of two numbers. Equal numbers differ by the positive zero, unless the first is
the negative zero and the second the positive one. -/
def sub : Binary64 → Binary64 → Binary64
  | .notANumber, _ | _, .notANumber => .notANumber
  | .infinite a, .infinite b => if a = b then .notANumber else .infinite a
  | .infinite a, .finite _ => .infinite a
  | .finite _, .infinite b => .infinite !b
  | .finite x, .finite y =>
    if x.mantissa = 0 ∧ y.mantissa = 0 then .finite (.zero (x.negative && !y.negative))
    else ofUnits (x.signedUnits - y.signedUnits)

/-- The number nearest to the value rounded to a number of decimal places, ties to even. The sign
is kept, also that of a zero result. -/
def roundPlaces (places : Nat) : Binary64 → Binary64
  | .finite x =>
    nearest x.negative (roundDiv (x.units * tenTo places) (twoTo 1074)) (tenTo places)
  | x => x

end Binary64

end TableClient
