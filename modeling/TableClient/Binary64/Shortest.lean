import TableClient.Binary64.Basic
import TableClient.Decimal.Numeral

/-!
# The shortest decimal text of a number

A number is written with the fewest significant digits that read back as the same number, and
among the decimals of that length with the one nearest to it. The search goes through the decimal
grids from coarse to fine: on each grid only the two neighbours of the value matter, since when any
point of a grid reads back as the number, so does one of them.

The text is positional when the decimal point falls at most three places before the first digit or
at most sixteen places after it; otherwise it is scientific with a signed exponent of at least two
digits. A positional text always has a fractional part.

## Main definitions

* `TableClient.Finite.readsBack` — the interval of decimals that round to a number.
* `TableClient.Finite.shortest` — digits and position of the decimal point.
* `TableClient.Binary64.text` — the text of a number.
-/

set_option relaxedAutoImplicit false
set_option autoImplicit false

namespace TableClient

namespace Finite

/-- A decimal grid: the multiples of `10 ^ power`. -/
structure Grid where
  power : Int

/-- The number of quarter units `2 ^ (-1076)` that make one. -/
def quartersOfOne : Nat := twoTo 1076

/-- The factors that bring a multiple of the grid step (left) and a number of quarter units (right)
to one common scale. -/
def Grid.factors (g : Grid) : Nat × Nat :=
  if 0 ≤ g.power then (tenTo g.power.toNat * quartersOfOne, 1)
  else (quartersOfOne, tenTo (-g.power).toNat)

/-- The magnitude in quarter units. -/
def quarters (x : Finite) : Nat := 4 * x.units

/-- The distance in quarter units from the magnitude down to the point halfway to the next smaller
number. It is half as large at the foot of a binade. -/
def gapBelow (x : Finite) : Nat :=
  if x.mantissa = twoTo 52 ∧ 0 < x.scale then twoTo x.scale else 2 * twoTo x.scale

/-- The distance in quarter units from the magnitude up to the point halfway to the next larger
number. -/
def gapAbove (x : Finite) : Nat := 2 * twoTo x.scale

/-- Whether `d` steps of the grid round to the magnitude of `x`. The halfway points do so exactly
when the mantissa is even. -/
def readsBack (x : Finite) (g : Grid) (d : Nat) : Bool :=
  let point := d * g.factors.1
  let low := (x.quarters - x.gapBelow) * g.factors.2
  let high := (x.quarters + x.gapAbove) * g.factors.2
  if x.mantissa % 2 = 0 then low ≤ point && point ≤ high
  else low < point && point < high

/-- The grid steps nearest to the magnitude of `x` that round to it, if one of the two neighbours
does; of two the nearer, and the even one on a tie. -/
def onGrid? (x : Finite) (g : Grid) : Option Nat :=
  let value := x.quarters * g.factors.2
  let step := g.factors.1
  let d := value / step
  match x.readsBack g d, x.readsBack g (d + 1) with
  | true, true => some (roundDiv value step)
  | true, false => some d
  | false, true => some (d + 1)
  | false, false => none

/-- The position of the decimal point relative to the first digit: the magnitude lies between
`10 ^ (point - 1)` and `10 ^ point`. -/
def point (x : Finite) : Int :=
  (Binary64.digitCount (x.units * tenTo 340 / twoTo 1074) : Int) - 340

/-- The first hit on the grids of `count`, `count + 1`, ... significant digits, as a number of
steps and the power of the grid. -/
def searchFrom (x : Finite) : Nat → Nat → Nat × Int
  | 0, count => (x.units * tenTo 340 / twoTo 1074, x.point - count)
  | tries + 1, count =>
    let g : Grid := ⟨x.point - count⟩
    match x.onGrid? g with
    | some d => (d, g.power)
    | none => searchFrom x tries (count + 1)

/-- The digits without trailing zeros, and how many zeros were dropped. -/
def dropZeros (n : Nat) : Nat × Nat :=
  if _h : n ≠ 0 ∧ n % 10 = 0 then
    let (m, k) := dropZeros (n / 10)
    (m, k + 1)
  else (n, 0)
termination_by n
decreasing_by omega

/-- The shortest digits of a number other than zero, and the position of the decimal point relative
to the first of them. -/
def shortest (x : Finite) : List Char × Int :=
  let (d, power) := searchFrom x 17 1
  let (digits, dropped) := dropZeros d
  let numeral := Numeral.ofNat digits
  (numeral, power + dropped + numeral.length)

/-- Digits with the decimal point set at the given position, and a fractional part always. -/
def positional (digits : List Char) (point : Int) : List Char :=
  if point ≤ 0 then '0' :: '.' :: (List.replicate (-point).toNat '0' ++ digits)
  else
    let whole := digits.take point.toNat
    let fraction := digits.drop point.toNat
    whole ++ List.replicate (point.toNat - digits.length) '0' ++ '.' ::
      (if fraction.isEmpty then ['0'] else fraction)

/-- The digits in scientific form, with the point after the first digit. -/
def scientific (digits : List Char) (point : Int) : List Char :=
  let exponent := point - 1
  let mantissa :=
    match digits with
    | first :: second :: rest => first :: '.' :: second :: rest
    | short => short
  mantissa ++ 'e' :: (if exponent < 0 then '-' else '+') :: Numeral.padded 2 exponent.natAbs

/-- The text of the magnitude. -/
def magnitudeText (x : Finite) : List Char :=
  if x.mantissa = 0 then ['0', '.', '0']
  else
    let (digits, point) := x.shortest
    if -4 < point ∧ point ≤ 16 then positional digits point else scientific digits point

end Finite

namespace Binary64

/-- The spelling of the numbers that are not finite. -/
structure Spelling where
  infinity : String
  notANumber : String

/-- The text of a number, given the spelling of the numbers that are not finite. -/
def textWith (spelling : Spelling) : Binary64 → String
  | .finite x => String.ofList (if x.negative then '-' :: x.magnitudeText else x.magnitudeText)
  | .infinite negative => if negative then "-" ++ spelling.infinity else spelling.infinity
  | .notANumber => spelling.notANumber

/-- The text of a number. -/
def text (x : Binary64) : String := x.textWith ⟨"inf", "nan"⟩

end Binary64

end TableClient
