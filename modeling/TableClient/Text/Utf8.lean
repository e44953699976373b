/-!
# The UTF-8 form of text

Characters written as bytes and bytes read back as characters. Reading goes one byte at a time:
between characters nothing is pending, and inside a character the machine knows how many bytes are
still owed, which ones were read, and which range the next one must lie in. A byte that does not
fit ends the character begun so far as one malformed piece and is then read afresh, so every
malformed piece is as long as it can be.

## Main definitions

* `TableClient.Text.Utf8.encodeChar`, `TableClient.Text.Utf8.encode` — characters to bytes.
* `TableClient.Text.Utf8.Piece`, `TableClient.Text.Utf8.pieces` — bytes to characters and malformed
  pieces, in order.
* `TableClient.Text.Utf8.decode?` — the characters, if no piece is malformed.
* `TableClient.Text.Utf8.decodeLossy` — the characters, with `U+FFFD` for each malformed piece.
-/

set_option relaxedAutoImplicit false
set_option autoImplicit false

namespace TableClient.Text.Utf8

/-- The byte with the given value, which is below 256. -/
def byte (n : Nat) : UInt8 := UInt8.ofNat n

/-- The bytes of a character, one to four of them. -/
def encodeChar (c : Char) : List UInt8 :=
  let n := c.toNat
  if n < 0x80 then [byte n]
  else if n < 0x800 then [byte (0xc0 + n / 64), byte (0x80 + n % 64)]
  else if n < 0x10000 then
    [byte (0xe0 + n / 4096), byte (0x80 + n / 64 % 64), byte (0x80 + n % 64)]
  else
    [byte (0xf0 + n / 262144), byte (0x80 + n / 4096 % 64), byte (0x80 + n / 64 % 64),
     byte (0x80 + n % 64)]

/-- The bytes of a list of characters. -/
def encode (cs : List Char) : List UInt8 := cs.flatMap encodeChar

/-- A piece of a byte sequence: a character, or bytes that spell none. -/
inductive Piece where
  | char (c : Char)
  | malformed (bs : List UInt8)

/-- The character that a piece is, if it is one. -/
def Piece.char? : Piece → Option Char
  | char c => some c
  | malformed _ => none

/-- A character begun but not finished: the bytes read so far and their bits, the number of bytes
still owed, and the range of the next one. -/
structure Pending where
  begun : List UInt8
  bits : Nat
  owed : Nat
  low : Nat
  high : Nat

/-- What a byte read between characters is. -/
inductive Lead where
  /-- A character by itself. -/
  | single (c : Char)
  /-- The first byte of a longer character. -/
  | opens (p : Pending)
  /-- No first byte of any character. -/
  | malformed

/-- The class of a byte read between characters. The narrowed ranges after `E0`, `ED`, `F0` and
`F4` exclude overlong forms, surrogates and numbers beyond `U+10FFFF`. -/
def lead (b : UInt8) : Lead :=
  let n := b.toNat
  if n < 0x80 then .single (Char.ofNat n)
  else if n < 0xc2 then .malformed
  else if n < 0xe0 then .opens ⟨[b], n - 0xc0, 1, 0x80, 0xbf⟩
  else if n < 0xf0 then
    .opens ⟨[b], n - 0xe0, 2, if n = 0xe0 then 0xa0 else 0x80, if n = 0xed then 0x9f else 0xbf⟩
  else if n < 0xf5 then
    .opens ⟨[b], n - 0xf0, 3, if n = 0xf0 then 0x90 else 0x80, if n = 0xf4 then 0x8f else 0xbf⟩
  else .malformed

/-- The pieces of a byte sequence read from the given state. -/
def piecesFrom : Option Pending → List UInt8 → List Piece
  | none, [] => []
  | some p, [] => [.malformed p.begun]
  | none, b :: bs =>
    match lead b with
    | .single c => .char c :: piecesFrom none bs
    | .opens p => piecesFrom (some p) bs
    | .malformed => .malformed [b] :: piecesFrom none bs
  | some p, b :: bs =>
    let n := b.toNat
    if p.low ≤ n ∧ n ≤ p.high then
      let bits := p.bits * 64 + (n - 0x80)
      if p.owed ≤ 1 then .char (Char.ofNat bits) :: piecesFrom none bs
      else piecesFrom (some ⟨p.begun ++ [b], bits, p.owed - 1, 0x80, 0xbf⟩) bs
    else
      match lead b with
      | .single c => .malformed p.begun :: .char c :: piecesFrom none bs
      | .opens q => .malformed p.begun :: piecesFrom (some q) bs
      | .malformed => .malformed p.begun :: .malformed [b] :: piecesFrom none bs

/-- The pieces of a byte sequence. -/
def pieces (bs : List UInt8) : List Piece := piecesFrom none bs

/-- The characters of a byte sequence that is well-formed throughout. -/
def decode? (bs : List UInt8) : Option (List Char) := (pieces bs).mapM Piece.char?

/-- The characters of a byte sequence, with the replacement character for malformed pieces. -/
def decodeLossy (bs : List UInt8) : List Char :=
  (pieces bs).map fun piece => piece.char?.getD (Char.ofNat 0xfffd)

end TableClient.Text.Utf8
