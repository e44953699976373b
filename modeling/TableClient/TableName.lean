import TableClient.Text.Pattern

/-!
# Table names

The naming convention for tables: a lower-case ASCII letter, then any number of lower-case ASCII
letters, digits and underscores. The names of custom tables begin with `u_` or `x_`, which the
convention mentions as an alternative of its own.

## Main definitions

* `TableClient.TableName.pattern` — the convention.
* `TableClient.TableName.isConventional` — the texts that follow it.
-/

set_option relaxedAutoImplicit false
set_option autoImplicit false

namespace TableClient.TableName

open Text (Pattern)

/-- Whether a character is a lower-case ASCII letter. -/
def isLetter (c : Char) : Bool := 'a' ≤ c && c ≤ 'z'

/-- Whether a character may stand after the first one. -/
def isWordChar (c : Char) : Bool := isLetter c || ('0' ≤ c && c ≤ '9') || c == '_'

/-- Whether a character marks a custom table. -/
def isCustomMark (c : Char) : Bool := c == 'u' || c == 'x'

/-- The names of tables: a letter and word characters. -/
def plainPattern : Pattern :=
  .seq .start (.seq (.one isLetter) (.seq (.many isWordChar) .finish))

/-- The names of custom tables: a mark, an underscore and at least one word character. -/
def customPattern : Pattern :=
  .seq .start (.seq (.one isCustomMark) (.seq (.one (· == '_'))
    (.seq (.one isWordChar) (.seq (.many isWordChar) .finish))))

/-- The naming convention. -/
def pattern : Pattern := .either plainPattern customPattern

/-- Whether a text passes as a table name. -/
def isConventional (t : Text) : Bool := pattern.fits t

end TableClient.TableName
