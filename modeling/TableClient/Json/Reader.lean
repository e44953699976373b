import TableClient.Decimal.Reading
import TableClient.Value.Key

/-!
# Reading JSON text

A reader for JSON text, one value to a text. Besides the standard grammar it takes the names `NaN`,
`Infinity` and `-Infinity`. A numeral without a point and exponent is an integer, any other number
is a floating-point number; a repeated name keeps its first place and its last value. Control
characters inside strings, trailing commas and anything after the value are refused. Two escaped
surrogates that form a pair are one character, and one without its partner stays what it is. Lists
and records can be nested only to a certain level.

The reader goes down the text character by character. It is bounded by a number of steps that
starts at twice the length of the text: every second step takes at least one character.

## Main definitions

* `TableClient.Json.ReadFault` — why a text is refused.
* `TableClient.Json.readString`, `TableClient.Json.readNumber` — the scalars, with what follows.
* `TableClient.Json.readValue` — one value, with what follows.
* `TableClient.Json.read` — a whole text.
-/

set_option relaxedAutoImplicit false
set_option autoImplicit false

namespace TableClient.Json

/-- Why a text is not read as a value. -/
inductive ReadFault where
  /-- The text does not follow the grammar. -/
  | malformed
  /-- An integer has more digits than integers may have. -/
  | hugeInteger
  /-- Lists and records are nested too deeply. -/
  | tooDeep
deriving DecidableEq

/-- Whether a character may stand between tokens. -/
def isSpace (c : Char) : Bool := c = ' ' || c = '\t' || c = '\n' || c = '\r'

/-- The text from its first token on. -/
def skipSpace (cs : List Char) : List Char := cs.dropWhile isSpace

/-- A piece of a string: a character that stands for itself, or a UTF-16 unit given by number. -/
inductive Piece where
  | char (c : Char)
  | unit (n : Nat)

/-- The value of a hexadecimal digit of either case. -/
def hexValue? (c : Char) : Option Nat :=
  if '0' ≤ c ∧ c ≤ '9' then some (c.toNat - 48)
  else if 'a' ≤ c ∧ c ≤ 'f' then some (c.toNat - 87)
  else if 'A' ≤ c ∧ c ≤ 'F' then some (c.toNat - 55)
  else none

/-- The unit spelled by four hexadecimal digits. -/
def unit? (a b c d : Char) : Option Nat := do
  let a ← hexValue? a
  let b ← hexValue? b
  let c ← hexValue? c
  let d ← hexValue? d
  return ((a * 16 + b) * 16 + c) * 16 + d

/-- The character that a one-letter escape stands for. -/
def escaped? (c : Char) : Option Char :=
  if c = '"' ∨ c = '\\' ∨ c = '/' then some c
  else if c = 'b' then some (Char.ofNat 0x08)
  else if c = 'f' then some (Char.ofNat 0x0c)
  else if c = 'n' then some '\n'
  else if c = 'r' then some '\r'
  else if c = 't' then some '\t'
  else none

/-- The pieces of a string up to its closing quote, and what follows the quote. -/
def readPieces : List Char → Option (List Piece × List Char)
  | [] => none
  | '"' :: cs => some ([], cs)
  | '\\' :: 'u' :: a :: b :: c :: d :: cs =>
    (unit? a b c d).bind fun n =>
      (readPieces cs).map fun (ps, rest) => (.unit n :: ps, rest)
  | '\\' :: c :: cs =>
    (escaped? c).bind fun e =>
      (readPieces cs).map fun (ps, rest) => (.char e :: ps, rest)
  | c :: cs =>
    if c.toNat < 0x20 ∨ c = '\\' then none
    else (readPieces cs).map fun (ps, rest) => (.char c :: ps, rest)

/-- Whether a unit is the first half of a pair. -/
def isHighSurrogate (n : Nat) : Bool := 0xd800 ≤ n && n < 0xdc00

/-- Whether a unit is the second half of a pair. -/
def isLowSurrogate (n : Nat) : Bool := 0xdc00 ≤ n && n < 0xe000

/-- The code point that a unit by itself stands for. -/
def unitPoint (n : Nat) : CodePoint :=
  if isHighSurrogate n || isLowSurrogate n then .ofSurrogateNumber n else .char (Char.ofNat n)

/-- The code points that the pieces spell; two units that form a pair are one character. -/
def joinPieces : List Piece → List CodePoint
  | [] => []
  | .char c :: ps => .char c :: joinPieces ps
  | .unit n :: .unit m :: ps =>
    if isHighSurrogate n && isLowSurrogate m then
      .char (Char.ofNat (0x10000 + (n - 0xd800) * 0x400 + (m - 0xdc00))) :: joinPieces ps
    else unitPoint n :: joinPieces (.unit m :: ps)
  | .unit n :: ps => unitPoint n :: joinPieces ps

/-- The text of a string after its opening quote, and what follows it. -/
def readString (cs : List Char) : Except ReadFault (Text × List Char) :=
  match readPieces cs with
  | some (ps, rest) => .ok (⟨joinPieces ps⟩, rest)
  | none => .error .malformed

/-- The digits of the integer part: a zero, or digits that begin with another one. -/
def wholeDigits? : List Char → Option (List Char × List Char)
  | '0' :: cs => some (['0'], cs)
  | cs =>
    let digits := cs.takeWhile Decimal.isDigit
    if digits.isEmpty then none else some (digits, cs.dropWhile Decimal.isDigit)

/-- The digits after a point, if a point and a digit follow. -/
def fractionDigits : List Char → List Char × List Char
  | '.' :: c :: cs =>
    if Decimal.isDigit c then
      ((c :: cs).takeWhile Decimal.isDigit, (c :: cs).dropWhile Decimal.isDigit)
    else ([], '.' :: c :: cs)
  | cs => ([], cs)

/-- The exponent, if a mark, an optional sign and a digit follow. -/
def exponentPart : List Char → Option Int × List Char
  | [] => (none, [])
  | mark :: cs =>
    let (negative, body) := Decimal.splitSign cs
    let digits := body.takeWhile Decimal.isDigit
    if (mark = 'e' ∨ mark = 'E') ∧ digits ≠ [] then
      let e : Int := Decimal.value digits
      (some (if negative then -e else e), body.dropWhile Decimal.isDigit)
    else (none, mark :: cs)

/-- A number behind its sign, and what follows it. -/
def readMagnitude (negative : Bool) (cs : List Char) : Except ReadFault (Value × List Char) :=
  match wholeDigits? cs with
  | none => .error .malformed
  | some (whole, rest) =>
    let (fraction, rest) := fractionDigits rest
    let (exponent, rest) := exponentPart rest
    if fraction = [] ∧ exponent = none then
      if whole.length ≤ Decimal.maxIntDigits then
        let n : Int := Decimal.value whole
        .ok (.int (if negative then -n else n), rest)
      else .error .hugeInteger
    else
      let digits := Decimal.value (whole ++ fraction)
      .ok (.float (.ofDecimal negative digits (exponent.getD 0 - fraction.length)), rest)

/-- A number, and what follows it. -/
def readNumber : List Char → Except ReadFault (Value × List Char)
  | '-' :: cs => readMagnitude true cs
  | cs => readMagnitude false cs

/-- The values that have a name, and what follows the name. -/
def readName? : List Char → Option (Value × List Char)
  | 'n' :: 'u' :: 'l' :: 'l' :: cs => some (.null, cs)
  | 't' :: 'r' :: 'u' :: 'e' :: cs => some (.bool true, cs)
  | 'f' :: 'a' :: 'l' :: 's' :: 'e' :: cs => some (.bool false, cs)
  | 'N' :: 'a' :: 'N' :: cs => some (.float .notANumber, cs)
  | 'I' :: 'n' :: 'f' :: 'i' :: 'n' :: 'i' :: 't' :: 'y' :: cs =>
    some (.float (.infinite false), cs)
  | '-' :: 'I' :: 'n' :: 'f' :: 'i' :: 'n' :: 'i' :: 't' :: 'y' :: cs =>
    some (.float (.infinite true), cs)
  | _ => none

mutual

/-- A value at the start of the text, and what follows it. The first number bounds the steps, the
second one the levels of nesting. -/
def readValue : Nat → Nat → List Char → Except ReadFault (Value × List Char)
  | 0, _, _ => .error .malformed
  | steps + 1, levels, cs =>
    match cs, levels with
    | '"' :: r, _ => (readString r).map fun (t, rest) => (.text t, rest)
    | '[' :: _, 0 | '{' :: _, 0 => .error .tooDeep
    | '[' :: r, levels + 1 =>
      match skipSpace r with
      | ']' :: rest => .ok (.list [], rest)
      | r => (readItems steps levels r).map fun (vs, rest) => (.list vs, rest)
    | '{' :: r, levels + 1 =>
      match skipSpace r with
      | '}' :: rest => .ok (.record [], rest)
      | r => (readEntries steps levels [] r).map fun (es, rest) => (.record es, rest)
    | cs, _ =>
      match readName? cs with
      | some found => .ok found
      | none => readNumber cs

/-- The items of a list from one of them to the closing bracket, and what follows it. -/
def readItems : Nat → Nat → List Char → Except ReadFault (List Value × List Char)
  | 0, _, _ => .error .malformed
  | steps + 1, levels, cs =>
    (readValue steps levels cs).bind fun (v, rest) =>
      match skipSpace rest with
      | ']' :: rest => .ok ([v], rest)
      | ',' :: rest =>
        (readItems steps levels (skipSpace rest)).map fun (vs, rest) => (v :: vs, rest)
      | _ => .error .malformed

/-- The entries of a record, added to those already read, from one of them to the closing brace,
and what follows it. -/
def readEntries : Nat → Nat → Entries → List Char → Except ReadFault (Entries × List Char)
  | 0, _, _, _ => .error .malformed
  | steps + 1, levels, es, cs =>
    match cs with
    | '"' :: r =>
      (readString r).bind fun (key, rest) =>
        match skipSpace rest with
        | ':' :: rest =>
          (readValue steps levels (skipSpace rest)).bind fun (v, rest) =>
            match skipSpace rest with
            | '}' :: rest => .ok (es.insert (.text key) v, rest)
            | ',' :: rest => readEntries steps levels (es.insert (.text key) v) (skipSpace rest)
            | _ => .error .malformed
        | _ => .error .malformed
    | _ => .error .malformed

end

/-- The value that a whole text denotes. -/
def readChars (cs : List Char) : Except ReadFault Value :=
  (readValue (2 * cs.length + 2) maxNesting (skipSpace cs)).bind fun (v, rest) =>
    if (skipSpace rest).isEmpty then .ok v else .error .malformed

/-- The value that a whole text denotes. -/
def read (s : String) : Except ReadFault Value := readChars s.toList

end TableClient.Json
