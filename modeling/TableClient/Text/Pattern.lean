import TableClient.Text.Basic

/-!
# Patterns of text

A pattern says what a text is like from its beginning on: which classes of characters follow one
another, and whether the text begins or ends somewhere. There may be several ways to read a text by
a pattern; they are tried in order, longer runs before shorter ones and the first of two
alternatives before the second.

A single line feed at the very end of a text does not count: the end is found before it as well.

## Main definitions

* `TableClient.Text.Pattern` — the patterns.
* `TableClient.Text.Pattern.ends` — the places up to which a pattern can be read.
* `TableClient.Text.Pattern.fits` — whether a text can be read by a pattern.
-/

set_option relaxedAutoImplicit false
set_option autoImplicit false

namespace TableClient.Text

/-- A pattern. -/
inductive Pattern where
  /-- The beginning of the text. -/
  | start
  /-- The end of the text, or a line feed with nothing behind it. -/
  | finish
  /-- One character of a class. -/
  | one (p : Char → Bool)
  /-- Any number of characters of a class. -/
  | many (p : Char → Bool)
  /-- One pattern and then another. -/
  | seq (first second : Pattern)
  /-- One pattern or another. -/
  | either (first second : Pattern)

/-- A place in a text: whether it is the beginning, and what is left of the text. -/
structure Place where
  isStart : Bool
  rest : List CodePoint

namespace Pattern

/-- The places up to which characters of a class can be read, the farthest one first. -/
def run (p : Char → Bool) : Bool → List CodePoint → List Place
  | isStart, [] => [⟨isStart, []⟩]
  | isStart, c :: rest =>
    (if c.isOf p then run p false rest else []) ++ [⟨isStart, c :: rest⟩]

/-- The places up to which a pattern can be read from a place, in the order in which they are
tried. -/
def ends : Pattern → Place → List Place
  | start, place => if place.isStart then [place] else []
  | finish, place => if place.rest = [] ∨ place.rest = [.char '\n'] then [place] else []
  | one p, place =>
    match place.rest with
    | c :: rest => if c.isOf p then [⟨false, rest⟩] else []
    | [] => []
  | many p, place => run p place.isStart place.rest
  | seq first second, place => (first.ends place).flatMap second.ends
  | either first second, place => first.ends place ++ second.ends place

/-- Whether a text can be read by a pattern, from its beginning on. -/
def fits (p : Pattern) (t : Text) : Bool := !(p.ends ⟨true, t.points⟩).isEmpty

end Pattern

end TableClient.Text
