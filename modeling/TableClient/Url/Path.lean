import TableClient.Text.Split
import TableClient.Url.Percent
import TableClient.Value.Shown

/-!
# Paths and base URLs

A path is a list of segments, each written after a slash and in percent-encoded form, so the only
slashes of a path are those between its segments. A segment with a surrogate has no such form, and
neither has a path with such a segment. The base URL of a service consists of the address of the
instance, the word `api`, a namespace and the name of the service.

## Main definitions

* `TableClient.Url.pathChars` — the path of segments that are given by their characters.
* `TableClient.Url.segments?` — a path taken apart.
* `TableClient.Url.ofValues`, `TableClient.Url.ofSegments` — the path of several values, and of a
  value that yields segments.
* `TableClient.Url.base` — the base URL of a service.
-/

set_option relaxedAutoImplicit false
set_option autoImplicit false

namespace TableClient.Url

/-- The path of segments that are given by their characters. -/
def pathChars (segments : List (List Char)) : List Char :=
  segments.flatMap fun cs => '/' :: encode cs

/-- The segments of a path, each in encoded form; a path is empty or begins with a slash. -/
def splitPath? : List Char → Option (List (List Char))
  | [] => some []
  | '/' :: cs => some (Text.cut '/' cs)
  | _ => none

/-- The segments of a path. -/
def segments? (cs : List Char) : Option (List Text) := do
  let parts ← splitPath? cs
  parts.mapM fun part => (decode? part).map Text.ofChars

/-- Why a value has no path. -/
inductive PathFault where
  /-- The value yields no segments. -/
  | noSegments
  /-- A segment has no encoded form. -/
  | notEncodable
  /-- A segment has no text. -/
  | unshowable (f : WriteFault)
deriving DecidableEq

/-- The characters of a segment, which shows as its text. -/
def segmentChars (v : Value) : Except PathFault (List Char) :=
  match v.showFault? maxNesting with
  | some f => .error (.unshowable f)
  | none => v.shown.chars?.elim (.error .notEncodable) .ok

/-- The path of several values. The first one that cannot be a segment is the one that is
reported. -/
def ofValues (segments : List Value) : Except PathFault String :=
  (segments.mapM segmentChars).map fun css => String.ofList (pathChars css)

/-- The path of a value that yields segments. -/
def ofSegments (v : Value) : Except PathFault String :=
  match v.elements? with
  | none => .error .noSegments
  | some vs => ofValues vs

/-- The base URL of a service. -/
def base (instanceUrl scope service : Text) : Text :=
  Text.joined "/" [instanceUrl, "api", scope, service]

end TableClient.Url
