import TableClient.Decimal.Numeral
import TableClient.Text.Basic
import TableClient.Text.Printable

/-!
# Quoted text

A text between quotes, as it appears inside the text of a list or record. The quotes are single
unless the text has single quotes and no double ones. Backslashes and the quote itself are escaped
by a backslash; tab, line feed and carriage return have short escapes, and every other character
that does not show by itself is spelled by its number in two, four or eight hexadecimal digits, and
so is every surrogate. A quoted text is therefore made of characters only.

## Main definitions

* `TableClient.Text.hexPadded` — a number in lower-case hexadecimal digits.
* `TableClient.Text.quoted` — a text between quotes.
* `TableClient.Text.quotedBytes` — a byte sequence between quotes.
-/

set_option relaxedAutoImplicit false
set_option autoImplicit false

namespace TableClient.Text

/-- The lower-case hexadecimal digit of a number below 16. -/
def hexDigit (d : Nat) : Char := Char.ofNat (if d < 10 then 48 + d else 87 + d)

/-- The last `width` hexadecimal digits of a number, most significant first. -/
def hexPadded : Nat → Nat → List Char
  | 0, _ => []
  | width + 1, n => hexPadded width (n / 16) ++ [hexDigit (n % 16)]

/-- The quote that a text with the given characters stands in. -/
def quoteFor (cs : List Char) : Char :=
  if cs.contains '\'' && !cs.contains '"' then '"' else '\''

/-- A character as it stands between the given quotes. -/
def quotedChar (quote c : Char) : List Char :=
  if c = quote ∨ c = '\\' then ['\\', c]
  else if c = '\t' then ['\\', 't']
  else if c = '\n' then ['\\', 'n']
  else if c = '\r' then ['\\', 'r']
  else if isPrintable c then [c]
  else if c.toNat < 0x100 then '\\' :: 'x' :: hexPadded 2 c.toNat
  else if c.toNat < 0x10000 then '\\' :: 'u' :: hexPadded 4 c.toNat
  else '\\' :: 'U' :: hexPadded 8 c.toNat

/-- A code point as it stands between the given quotes. -/
def quotedPoint (quote : Char) : CodePoint → List Char
  | .char c => quotedChar quote c
  | .surrogate n => '\\' :: 'u' :: hexPadded 4 (CodePoint.surrogateNumber n)

/-- A text between quotes. -/
def quoted (t : Text) : String :=
  let quote := quoteFor (t.points.filterMap CodePoint.char?)
  String.ofList (quote :: t.points.flatMap (quotedPoint quote) ++ [quote])

/-- A byte as it stands between the given quotes: only the printable ASCII characters stand for
themselves. -/
def quotedByte (quote : Char) (b : UInt8) : List Char :=
  let c := Char.ofNat b.toNat
  if b.toNat < 0x7f then quotedChar quote c else '\\' :: 'x' :: hexPadded 2 b.toNat

/-- A byte sequence between quotes, marked by a leading `b`. -/
def quotedBytes (bs : List UInt8) : String :=
  let quote := quoteFor (bs.map fun b => Char.ofNat b.toNat)
  String.ofList ('b' :: quote :: bs.flatMap (quotedByte quote) ++ [quote])

end TableClient.Text
