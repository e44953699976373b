import TableClient.Text.Basic

/-!
# Cutting text at a separator

## Main definitions

* `TableClient.Text.cut` — the parts of a list, of code points or else, between separators.
* `TableClient.Text.split` — the parts of a text between separators.
-/

set_option relaxedAutoImplicit false
set_option autoImplicit false

namespace TableClient.Text

/-- The parts between separators; there is always one part more than there are separators. -/
def cut {α : Type} [DecidableEq α] (separator : α) : List α → List (List α)
  | [] => [[]]
  | c :: cs =>
    if c = separator then [] :: cut separator cs
    else
      match cut separator cs with
      | first :: rest => (c :: first) :: rest
      | [] => [[c]]

/-- The parts of a text between separators. -/
def split (separator : Char) (t : Text) : List Text :=
  (cut (.char separator) t.points).map Text.mk

end TableClient.Text
