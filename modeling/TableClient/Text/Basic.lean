/-!
# Text

A text is a list of code points. Text that comes in escaped form can spell surrogates that have no
partner. They are no characters, and yet they are counted, compared and passed on like the others;
only where a text must become bytes they may stand in the way. Texts that the program makes itself
are strings, and count as texts wherever one is asked for.

## Main definitions

* `TableClient.CodePoint` — characters, and surrogates without a partner.
* `TableClient.Text` — the texts.
* `TableClient.Text.ofString`, `TableClient.Text.chars?` — the text of a string, and the characters
  of a text that has no surrogates.
* `TableClient.Text.flatten`, `TableClient.Text.joined` — putting texts together.
* `TableClient.Text.expand` — replacing each character of a text.
-/

set_option relaxedAutoImplicit false
set_option autoImplicit false

namespace TableClient

/-- A character, or a surrogate without its partner, counted from `U+D800`. -/
inductive CodePoint where
  | char (c : Char)
  | surrogate (n : Fin 2048)
deriving DecidableEq

namespace CodePoint

/-- The number of a surrogate. -/
def surrogateNumber (n : Fin 2048) : Nat := 0xd800 + n.val

/-- The surrogate of a number from `U+D800` to `U+DFFF`. -/
def ofSurrogateNumber (number : Nat) : CodePoint :=
  surrogate ⟨(number - 0xd800) % 2048, Nat.mod_lt _ (by decide)⟩

/-- The character that a code point is, if it is one. -/
def char? : CodePoint → Option Char
  | char c => some c
  | surrogate _ => none

/-- Whether a code point is a character of class `p`. -/
def isOf (p : Char → Bool) : CodePoint → Bool
  | char c => p c
  | surrogate _ => false

end CodePoint

/-- A text: its code points in order. -/
structure Text where
  points : List CodePoint
deriving DecidableEq

namespace Text

/-- The text of a list of characters. -/
def ofChars (cs : List Char) : Text := ⟨cs.map .char⟩

/-- The text of a string. -/
def ofString (s : String) : Text := ofChars s.toList

instance : Coe String Text := ⟨ofString⟩

instance : Inhabited Text := ⟨⟨[]⟩⟩

/-- One text after the other. Two surrogates that meet stay two. -/
def append (s t : Text) : Text := ⟨s.points ++ t.points⟩

instance : Append Text := ⟨append⟩

/-- Whether a text has no code points. -/
def isEmpty (t : Text) : Bool := t.points.isEmpty

/-- The number of code points of a text. -/
def length (t : Text) : Nat := t.points.length

/-- The characters of a text, if all its code points are characters. -/
def chars? (t : Text) : Option (List Char) := t.points.mapM CodePoint.char?

/-- Several texts, one after the other. -/
def flatten (texts : List Text) : Text := ⟨texts.flatMap points⟩

/-- Several texts with a separator between them. -/
def joined (separator : Text) (texts : List Text) : Text :=
  ⟨List.intercalate separator.points (texts.map points)⟩

/-- Whether a list of code points occurs in another one. -/
def occurs (part : List CodePoint) : List CodePoint → Bool
  | [] => part.isEmpty
  | p :: ps => part.isPrefixOf (p :: ps) || occurs part ps

/-- Whether a text is a part of another one. -/
def hasPart (t part : Text) : Bool := occurs part.points t.points

/-- The code points that stand in place of one code point. Surrogates stay. -/
def expandPoint (f : Char → List Char) : CodePoint → List CodePoint
  | .char c => (f c).map .char
  | p => [p]

/-- The text with several characters in place of each character. -/
def expand (f : Char → List Char) (t : Text) : Text := ⟨t.points.flatMap (expandPoint f)⟩

end Text

end TableClient
