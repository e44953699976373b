import TableClient.Text.ByteForm
import TableClient.Text.Split

/-!
# Paths

A path is a list of names, from the root or from the working directory. Repeated slashes and single
dots in the text of a path do not count; double dots are names of their own, which are resolved when
a path is followed. Paths are texts, but what they lead to is named by bytes: two texts call the
same file when their bytes are the same, and a text without a byte form leads nowhere.

## Main definitions

* `TableClient.Session.Name` — the names of files, as bytes.
* `TableClient.Session.Path` — the paths; `Path.ofText`, `Path.text`, `Path.bytes?`, `Path.names?`.
-/

set_option relaxedAutoImplicit false
set_option autoImplicit false

namespace TableClient.Session

/-! ### Names -/

/-- The name of a file, as bytes. -/
abbrev Name := List UInt8

/-- The name that a string spells. -/
def Name.ofString (s : String) : Name := Text.Utf8.encode s.toList

/-- The name that leads to the directory above. -/
def Name.above : Name := Name.ofString ".."

/-! ### Paths -/

/-- A path: the slashes that it keeps at its start, and its names. -/
structure Path where
  slashes : Nat
  names : List Text
deriving DecidableEq

namespace Path

/-- The code point of a slash. -/
def slash : CodePoint := .char '/'

/-- The path of a text. Of the slashes at its start it keeps two if there are exactly two, and else
at most one. -/
def ofText (t : Text) : Path :=
  let slashes := (t.points.takeWhile (· == slash)).length
  let names := (t.split '/').filter fun (name : Text) => !name.isEmpty && name != "."
  ⟨if slashes ≤ 2 then slashes else 1, names⟩

/-- Whether a path begins at the root and not at the working directory. -/
def isRooted (p : Path) : Bool := p.slashes != 0

/-- The text of a path. A path without slashes and names is a single dot. -/
def text (p : Path) : Text :=
  if p.isRooted || !p.names.isEmpty then
    ⟨List.replicate p.slashes slash⟩ ++ Text.joined "/" p.names
  else "."

/-- Whether the null character is in one of the names. -/
def hasNull (p : Path) : Bool := p.names.any Text.hasNull

/-- The bytes of a path. -/
def bytes? (p : Path) : Option (List UInt8) := p.text.toBytes?

/-- The names of a path as bytes. -/
def names? (p : Path) : Option (List Name) := p.names.mapM Text.toBytes?

end Path

end TableClient.Session
