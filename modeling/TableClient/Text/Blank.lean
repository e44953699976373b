import TableClient.Text.Basic

/-!
# Blank characters

The characters that separate words: the Unicode white space characters together with the four
information separators `U+001C` to `U+001F`. The zero width space and the byte order mark are not
blank.

## Main definitions

* `TableClient.Text.isBlank` — membership in the class.
* `TableClient.Text.trimEnd`, `TableClient.Text.trim` — cutting items of a class off the end, or off
  both ends, of a list.
* `TableClient.Text.strip` — a text without blanks at either end.
-/

set_option relaxedAutoImplicit false
set_option autoImplicit false

namespace TableClient.Text

/-- The code points of the blank characters, as inclusive ranges in increasing order. -/
def blankRanges : List (Nat × Nat) :=
  [(0x09, 0x0d), (0x1c, 0x20), (0x85, 0x85), (0xa0, 0xa0), (0x1680, 0x1680), (0x2000, 0x200a),
   (0x2028, 0x2029), (0x202f, 0x202f), (0x205f, 0x205f), (0x3000, 0x3000)]

/-- Whether a number lies in one of the inclusive ranges. -/
def inRanges (ranges : List (Nat × Nat)) (n : Nat) : Bool :=
  ranges.any fun r => r.1 ≤ n && n ≤ r.2

/-- Whether a character is blank. -/
def isBlank (c : Char) : Bool := inRanges blankRanges c.toNat

/-- The list without its longest tail of items of class `p`. -/
def trimEnd {α : Type} (p : α → Bool) (items : List α) : List α :=
  (items.reverse.dropWhile p).reverse

/-- The list without items of class `p` at either end. -/
def trim {α : Type} (p : α → Bool) (items : List α) : List α := trimEnd p (items.dropWhile p)

/-- The text without blanks at either end. -/
def strip (t : Text) : Text := ⟨trim (·.isOf isBlank) t.points⟩

end TableClient.Text
