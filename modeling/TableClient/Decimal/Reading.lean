import TableClient.Binary64.Basic
import TableClient.Decimal.Numeral
import TableClient.Text.Blank
import TableClient.Text.Digit

/-!
# Reading numbers

Two readers of decimal numbers. The plain one takes an optional sign, digits with an optional
point and an optional exponent, or one of the names of the numbers that are not finite in any
letter case. The lenient one, used for settings typed by people, first drops surrounding blanks,
takes the digits of every script, and allows single underscores between digits.

## Main definitions

* `TableClient.Decimal.plain?` — the plain grammar.
* `TableClient.Decimal.lenient?` — the lenient grammar of fractional numbers.
* `TableClient.Decimal.lenientInt?` — the lenient grammar of integers, with at most 4300 digits.
-/

set_option relaxedAutoImplicit false
set_option autoImplicit false

namespace TableClient.Decimal

/-- Whether a character is an ASCII digit. -/
def isDigit (c : Char) : Bool := (Numeral.digitValue? c).isSome

/-- The value of a possibly empty run of digits. -/
def value (digits : List Char) : Nat := (Numeral.toNatFrom? 0 digits).getD 0

/-- Splits off a leading sign; the flag is set for a minus. -/
def splitSign : List Char → Bool × List Char
  | '-' :: cs => (true, cs)
  | '+' :: cs => (false, cs)
  | cs => (false, cs)

/-- The exponent part: nothing, or a mark, an optional sign and digits up to the end. -/
def exponent? : List Char → Option Int
  | [] => some 0
  | mark :: cs =>
    let (negative, digits) := splitSign cs
    if (mark = 'e' ∨ mark = 'E') ∧ digits ≠ [] ∧ digits.all isDigit then
      some (if negative then -(value digits : Int) else value digits)
    else none

/-- The number written as digits with an optional point and exponent. -/
def digits? (negative : Bool) (cs : List Char) : Option Binary64 :=
  let whole := cs.takeWhile isDigit
  let (fraction, rest) :=
    match cs.dropWhile isDigit with
    | '.' :: r => (r.takeWhile isDigit, r.dropWhile isDigit)
    | r => ([], r)
  if whole.isEmpty && fraction.isEmpty then none
  else
    (exponent? rest).map fun e =>
      Binary64.ofDecimal negative (value (whole ++ fraction)) (e - fraction.length)

/-- The number that a text denotes in the plain grammar. -/
def plain? (cs : List Char) : Option Binary64 :=
  let (negative, body) := splitSign cs
  let name := String.ofList (body.map Char.toLower)
  if name = "inf" ∨ name = "infinity" then some (.infinite negative)
  else if name = "nan" then some .notANumber
  else digits? negative body

/-- Whether a character may surround a number: a space, tab or line separator, or any blank beyond
ASCII. -/
def isMargin (c : Char) : Bool :=
  c = ' ' || (0x09 ≤ c.toNat && c.toNat ≤ 0x0d) || (0x7f ≤ c.toNat && Text.isBlank c)

/-- The ASCII digit of the same value for a digit of any script; other characters stay. -/
def asciiDigit (c : Char) : Char := ((Text.digitValue? c).map Numeral.digitChar).getD c

/-- The list without its underscores, if each stands between two digits; `before` tells whether the
character read last was a digit. -/
def dropUnderscores? (before : Bool) : List Char → Option (List Char)
  | [] => some []
  | '_' :: c :: cs => if before && isDigit c then (dropUnderscores? true cs).map (c :: ·) else none
  | c :: cs => if c = '_' then none else (dropUnderscores? (isDigit c) cs).map (c :: ·)

/-- A text brought to plain form: margins cut off, digits in ASCII, underscores dropped. -/
def normalized? (t : Text) : Option (List Char) :=
  t.chars?.bind fun cs => dropUnderscores? false ((Text.trim isMargin cs).map asciiDigit)

/-- The number that a text denotes in the lenient grammar. -/
def lenient? (t : Text) : Option Binary64 := (normalized? t).bind plain?

/-- The most digits that an integer may be written with. -/
def maxIntDigits : Nat := 4300

/-- The integer that a text denotes in the lenient grammar. -/
def lenientInt? (t : Text) : Option Int :=
  (normalized? t).bind fun cs =>
    let (negative, digits) := splitSign cs
    if digits ≠ [] ∧ digits.all isDigit ∧ digits.length ≤ maxIntDigits then
      some (if negative then -(value digits : Int) else value digits)
    else none

end TableClient.Decimal
