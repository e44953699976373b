import TableClient.Value.Shown

/-!
# Values as JSON text

JSON text on one line in ASCII: a comma or colon is followed by a space, entries stand in their
order, and every character outside printable ASCII is spelled by its UTF-16 units. Numbers that are
not finite have the names `NaN`, `Infinity` and `-Infinity`. Values that JSON does not know, such as
date-times, are written as the string that they show by themselves; a tuple is written as a list.

Not every value can be written: an integer can have too many digits, lists and records can be nested
too deeply, and a key can be of a type that no name is made of.

## Main definitions

* `TableClient.Json.units` — the UTF-16 units of a character.
* `TableClient.Json.stringChars`, `TableClient.Json.keyChars` — texts and keys as JSON strings.
* `TableClient.Json.valueChars`, `TableClient.Json.write` — a value as JSON text.
* `TableClient.Json.fault?` — why a value is not written.
-/

set_option relaxedAutoImplicit false
set_option autoImplicit false

namespace TableClient.Json

/-- The UTF-16 units of a character: itself, or a pair of surrogates above `U+FFFF`. -/
def units (c : Char) : List Nat :=
  let n := c.toNat
  if n < 0x10000 then [n]
  else [0xd800 + (n - 0x10000) / 0x400, 0xdc00 + (n - 0x10000) % 0x400]

/-- A UTF-16 unit spelled by its number. -/
def unitEscape (n : Nat) : List Char := '\\' :: 'u' :: Text.hexPadded 4 n

/-- A character inside a JSON string. -/
def charEscape (c : Char) : List Char :=
  if c = '"' then ['\\', '"']
  else if c = '\\' then ['\\', '\\']
  else if c = '\n' then ['\\', 'n']
  else if c = '\r' then ['\\', 'r']
  else if c = '\t' then ['\\', 't']
  else if c.toNat = 0x08 then ['\\', 'b']
  else if c.toNat = 0x0c then ['\\', 'f']
  else if 0x20 ≤ c.toNat ∧ c.toNat ≤ 0x7e then [c]
  else (units c).flatMap unitEscape

/-- A code point inside a JSON string. -/
def pointEscape : CodePoint → List Char
  | .char c => charEscape c
  | .surrogate n => unitEscape (CodePoint.surrogateNumber n)

/-- A text as a JSON string. -/
def stringChars (t : Text) : List Char := '"' :: t.points.flatMap pointEscape ++ ['"']

/-- The names of the numbers that are not finite. -/
def spelling : Binary64.Spelling := ⟨"Infinity", "NaN"⟩

/-- A truth value as JSON text. -/
def boolChars (b : Bool) : List Char :=
  if b then ['t', 'r', 'u', 'e'] else ['f', 'a', 'l', 's', 'e']

/-- The name that is made of a key of a record: a text, or the JSON text of a simple value. No other
key can be written. -/
def keyText : Value → Text
  | .text t => t
  | .null => "null"
  | .bool b => .ofChars (boolChars b)
  | .float x => x.textWith spelling
  | v => v.shown

/-- A key of a record as a JSON string. -/
def keyChars (key : Value) : List Char := stringChars (keyText key)

mutual

/-- A value as JSON text. -/
def valueChars : Value → List Char
  | .null => ['n', 'u', 'l', 'l']
  | .bool b => boolChars b
  | .int n => Numeral.ofInt n
  | .float x => (x.textWith spelling).toList
  | .text t => stringChars t
  | .list items => '[' :: itemsChars items ++ [']']
  | .tuple items => '[' :: itemsChars items ++ [']']
  | .record entries => '{' :: entriesChars entries ++ ['}']
  | v => stringChars v.shown

/-- The items of a list, with separators between them. -/
def itemsChars : List Value → List Char
  | [] => []
  | [v] => valueChars v
  | v :: vs => valueChars v ++ ',' :: ' ' :: itemsChars vs

/-- The entries of a record, with separators between them. -/
def entriesChars : List (Value × Value) → List Char
  | [] => []
  | [(key, v)] => keyChars key ++ ':' :: ' ' :: valueChars v
  | (key, v) :: es =>
    keyChars key ++ ':' :: ' ' :: valueChars v ++ ',' :: ' ' :: entriesChars es

end

/-- The JSON text of a value that can be written. -/
def write (v : Value) : String := String.ofList (valueChars v)

/-- Why a key is not written, if it is not. -/
def keyFault? : Value → Option WriteFault
  | .text _ | .null | .bool _ | .float _ => none
  | .int n => Value.numeralFault? n
  | _ => some .unusableKey

mutual

/-- Why a value is not written when lists and records may be nested to so many levels, if it is not:
the first reason that is met. -/
def fault? : Value → Nat → Option WriteFault
  | .int n, _ => Value.numeralFault? n
  | .list _, 0 | .tuple _, 0 | .record _, 0 => some .tooDeep
  | .list items, levels + 1 | .tuple items, levels + 1 => itemsFault? items levels
  | .record entries, levels + 1 => entriesFault? entries levels
  | v, levels => v.showFault? levels

/-- Why one of several values is not written, if one is not. -/
def itemsFault? : List Value → Nat → Option WriteFault
  | [], _ => none
  | v :: vs, levels => (fault? v levels).or (itemsFault? vs levels)

/-- Why a key or value of some entries is not written, if one is not. -/
def entriesFault? : List (Value × Value) → Nat → Option WriteFault
  | [], _ => none
  | (key, v) :: es, levels =>
    ((keyFault? key).or (fault? v levels)).or (entriesFault? es levels)

end

end TableClient.Json
