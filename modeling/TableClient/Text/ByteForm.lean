import TableClient.Text.Basic
import TableClient.Text.Utf8

/-!
# Texts as byte sequences

Names of files and variables of the environment are byte sequences. A byte sequence is read as the
characters that it spells in UTF-8, and each byte that is part of no character as a surrogate from
`U+DC80` to `U+DCFF`, so that every byte sequence has a text that leads back to it. Other surrogates
stand for no byte, and a text with one of them has no byte form.

## Main definitions

* `TableClient.Text.toBytes?` — the byte form of a text, if it has one.
* `TableClient.Text.ofBytes` — the text of a byte sequence.
* `TableClient.Text.hasNull` — whether the null character, which ends such names, is in a text.
-/

set_option relaxedAutoImplicit false
set_option autoImplicit false

namespace TableClient.Text

/-- The bytes of a code point. -/
def pointBytes? : CodePoint → Option (List UInt8)
  | .char c => some (Utf8.encodeChar c)
  | .surrogate n =>
    let number := CodePoint.surrogateNumber n
    if 0xdc80 ≤ number ∧ number ≤ 0xdcff then some [Utf8.byte (number - 0xdc00)] else none

/-- The byte form of a text. -/
def toBytes? (t : Text) : Option (List UInt8) := (t.points.mapM pointBytes?).map List.flatten

/-- The surrogate that stands for a byte. -/
def byteSurrogate (b : UInt8) : CodePoint := .ofSurrogateNumber (0xdc00 + b.toNat)

/-- The code points of a piece of a byte sequence. -/
def piecePoints : Utf8.Piece → List CodePoint
  | .char c => [.char c]
  | .malformed bs => bs.map byteSurrogate

/-- The text of a byte sequence. -/
def ofBytes (bs : List UInt8) : Text := ⟨(Utf8.pieces bs).flatMap piecePoints⟩

/-- Whether the null character is in a text. -/
def hasNull (t : Text) : Bool := t.points.any (·.isOf (·.toNat == 0))

end TableClient.Text
