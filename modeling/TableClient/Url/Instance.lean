import TableClient.Text.Blank

/-!
# The address of an instance

An instance is given as a bare name, as a host, or as a URL. Blanks around it and slashes after it
do not count. What has no scheme gets one, and what has neither scheme nor dot gets the domain of
the hosted service as well.

## Main definitions

* `TableClient.Url.ofInstance` — the URL of an instance.
-/

set_option relaxedAutoImplicit false
set_option autoImplicit false

namespace TableClient.Url

/-- The domain of the hosted service. -/
def hostedDomain : String := "service-now.com"

/-- Whether the first list occurs in the second as a contiguous part. -/
def occursIn {α : Type} [DecidableEq α] (part : List α) : List α → Bool
  | [] => part.isEmpty
  | a :: rest => part.isPrefixOf (a :: rest) || occursIn part rest

/-- An instance without blanks around it and slashes after it. -/
def trimInstance (t : Text) : Text := ⟨Text.trimEnd (· == .char '/') t.strip.points⟩

/-- What stands between the scheme of a URL and the rest of it. -/
def schemeMark : Text := "://"

/-- The URL of an instance. -/
def ofInstance (t : Text) : Text :=
  let name := trimInstance t
  if occursIn schemeMark.points name.points then name
  else if name.points.contains (.char '.') then "https://" ++ name
  else "https://" ++ name ++ "." ++ hostedDomain

end TableClient.Url
