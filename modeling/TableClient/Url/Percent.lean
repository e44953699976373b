import TableClient.Text.Utf8

/-!
# Percent-encoding

A text as part of a URL: letters and digits of ASCII and the four marks `_`, `.`, `-` and `~` stand
for themselves, and every other character is spelled by the bytes of its UTF-8 form, each as a
percent sign and two upper-case hexadecimal digits. A surrogate without its partner has no such
bytes, so only lists of characters have an encoded form. The reader beside the writer takes exactly
this form.

## Main definitions

* `TableClient.Url.isUnreserved` — the characters that stand for themselves.
* `TableClient.Url.encode` — the encoded form of a list of characters.
* `TableClient.Url.decode?` — the characters of an encoded form.
-/

set_option relaxedAutoImplicit false
set_option autoImplicit false

namespace TableClient.Url

/-- Whether a character stands for itself. -/
def isUnreserved (c : Char) : Bool :=
  ('A' ≤ c && c ≤ 'Z') || ('a' ≤ c && c ≤ 'z') || ('0' ≤ c && c ≤ '9') ||
    c == '_' || c == '.' || c == '-' || c == '~'

/-- The upper-case hexadecimal digit of a number below 16. -/
def hexDigit (d : Nat) : Char := Char.ofNat (if d < 10 then 48 + d else 55 + d)

/-- The value of an upper-case hexadecimal digit. -/
def hexValue? (c : Char) : Option Nat :=
  if '0' ≤ c ∧ c ≤ '9' then some (c.toNat - 48)
  else if 'A' ≤ c ∧ c ≤ 'F' then some (c.toNat - 55)
  else none

/-- A byte as a percent sign and two digits. -/
def encodeByte (b : UInt8) : List Char :=
  ['%', hexDigit (b.toNat / 16), hexDigit (b.toNat % 16)]

/-- A character in encoded form. -/
def encodeChar (c : Char) : List Char :=
  if isUnreserved c then [c] else (Text.Utf8.encodeChar c).flatMap encodeByte

/-- A list of characters in encoded form. -/
def encode (cs : List Char) : List Char := cs.flatMap encodeChar

/-- The bytes that an encoded form spells. -/
def decodeBytes? : List Char → Option (List UInt8)
  | [] => some []
  | '%' :: a :: b :: cs => do
    let hi ← hexValue? a
    let lo ← hexValue? b
    let rest ← decodeBytes? cs
    return Text.Utf8.byte (hi * 16 + lo) :: rest
  | c :: cs =>
    if isUnreserved c then (decodeBytes? cs).map (Text.Utf8.byte c.toNat :: ·) else none

/-- The characters of an encoded form. -/
def decode? (cs : List Char) : Option (List Char) := (decodeBytes? cs).bind Text.Utf8.decode?

end TableClient.Url
