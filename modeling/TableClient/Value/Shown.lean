import TableClient.Binary64.Shortest
import TableClient.Decimal.Reading
import TableClient.Text.Quoted
import TableClient.Value.Basic

/-!
# Values as text

Every value has two texts: the one it shows by itself and the one it has inside another value. They
differ for texts, which stand between quotes inside a list, and for dates and date-times, which
stand there as the expression that builds them. Only a text itself can show a surrogate without a
partner; inside another value it is spelled out. Integers with too many digits are not written in
every place; values without such integers are showable. Values that are nested too deeply have no
text either.

## Main definitions

* `TableClient.Value.inner` — the text of a value inside another one.
* `TableClient.Value.shown` — the text of a value by itself.
* `TableClient.Value.isShowable` — whether no integer in a value is too long to be written.
* `TableClient.WriteFault`, `TableClient.Value.showFault?` — why a value has no text.
-/

set_option relaxedAutoImplicit false
set_option autoImplicit false

namespace TableClient

/-- The texts separated by a comma and a space. -/
def commaJoined (texts : List String) : String := ", ".intercalate texts

/-- The numerals of the given numbers, comma-separated. -/
def numeralList (ns : List Nat) : String := commaJoined (ns.map Numeral.natText)

/-- A date as the expression that builds it. -/
def Date.expression (d : Date) : String :=
  "datetime.date(" ++ numeralList [d.year, d.month, d.day] ++ ")"

/-- An offset as the expression that builds it. A negative one counts up from a full day back. -/
def Offset.expression (o : Offset) : String :=
  let duration (body : String) := "datetime.timezone(datetime.timedelta(" ++ body ++ "))"
  if o.seconds = 0 then "datetime.timezone.utc"
  else if o.seconds < 0 then duration ("days=-1, seconds=" ++ Numeral.intText (o.seconds + 86400))
  else duration ("seconds=" ++ Numeral.intText o.seconds)

/-- A date-time as the expression that builds it. Seconds and microseconds are left out from the
end while they are zero. -/
def DateTime.expression (t : DateTime) : String :=
  let tail :=
    if t.time.microsecond ≠ 0 then [t.time.second, t.time.microsecond]
    else if t.time.second ≠ 0 then [t.time.second]
    else []
  let parts := [t.date.year, t.date.month, t.date.day, t.time.hour, t.time.minute] ++ tail
  let zone := match t.offset with
    | some o => ", tzinfo=" ++ o.expression
    | none => ""
  "datetime.datetime(" ++ numeralList parts ++ zone ++ ")"

/-- The text of a truth value. -/
def boolText (b : Bool) : String := if b then "True" else "False"

namespace Value

mutual

/-- The text of a value inside another one. -/
def inner : Value → String
  | null => "None"
  | bool b => boolText b
  | int n => Numeral.intText n
  | float x => x.text
  | text t => t.quoted
  | list items => "[" ++ commaJoined (innerAll items) ++ "]"
  | tuple items =>
    match items with
    | [item] => "(" ++ inner item ++ ",)"
    | items => "(" ++ commaJoined (innerAll items) ++ ")"
  | record entries => "\x7b" ++ commaJoined (innerEntries entries) ++ "\x7d"
  | dateTime t => t.expression
  | date d => d.expression
  | bytes bs => Text.quotedBytes bs
  | set items =>
    match items with
    | [] => "set()"
    | items => "\x7b" ++ commaJoined (innerAll items) ++ "\x7d"
  | range stop => "range(0, " ++ Numeral.intText stop ++ ")"
  | query _ _ => "<QueryBuilder>"

/-- The texts of several values inside another one. -/
def innerAll : List Value → List String
  | [] => []
  | v :: vs => inner v :: innerAll vs

/-- The texts of the entries of a record. -/
def innerEntries : List (Value × Value) → List String
  | [] => []
  | (key, v) :: es => (inner key ++ ": " ++ inner v) :: innerEntries es

end

/-- The text of a value by itself. -/
def shown : Value → Text
  | text t => t
  | dateTime t => t.isoText " "
  | date d => d.isoText
  | v => v.inner

/-- Whether an integer has few enough digits to be written. -/
def hasNumeral (n : Int) : Bool := (Numeral.ofNat n.natAbs).length ≤ Decimal.maxIntDigits

mutual

/-- Whether no integer in a value is too long to be written. -/
def isShowable : Value → Bool
  | int n | range n => hasNumeral n
  | list items | tuple items | set items => allShowable items
  | record entries => entriesShowable entries
  | _ => true

/-- Whether no integer in several values is too long to be written. -/
def allShowable : List Value → Bool
  | [] => true
  | v :: vs => isShowable v && allShowable vs

/-- Whether no integer in the entries of a record is too long to be written. -/
def entriesShowable : List (Value × Value) → Bool
  | [] => true
  | (key, v) :: es => isShowable key && isShowable v && entriesShowable es

end

end Value

/-- Why a value is not written as text. -/
inductive WriteFault where
  /-- An integer has more digits than integers may have. -/
  | hugeInteger
  /-- Values are nested too deeply. -/
  | tooDeep
  /-- A key is of a type that no name can be made of. -/
  | unusableKey
deriving DecidableEq

namespace Value

/-- Why an integer has no numeral, if it has none. -/
def numeralFault? (n : Int) : Option WriteFault := if hasNumeral n then none else some .hugeInteger

mutual

/-- Why a value has no text when it may be nested to so many levels, if it has none: the first
reason that is met. -/
def showFault? : Value → Nat → Option WriteFault
  | int n, _ | range n, _ => numeralFault? n
  | list _, 0 | tuple _, 0 | set _, 0 | record _, 0 => some .tooDeep
  | list items, levels + 1 | tuple items, levels + 1 | set items, levels + 1 =>
    itemsShowFault? items levels
  | record entries, levels + 1 => entriesShowFault? entries levels
  | _, _ => none

/-- Why one of several values has no text, if one has none. -/
def itemsShowFault? : List Value → Nat → Option WriteFault
  | [], _ => none
  | v :: vs, levels => (showFault? v levels).or (itemsShowFault? vs levels)

/-- Why a key or value of some entries has no text, if one has none. -/
def entriesShowFault? : List (Value × Value) → Nat → Option WriteFault
  | [], _ => none
  | (key, v) :: es, levels =>
    ((showFault? key levels).or (showFault? v levels)).or (entriesShowFault? es levels)

end

end Value

end TableClient
