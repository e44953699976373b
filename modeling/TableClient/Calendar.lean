import TableClient.Decimal.Numeral

/-!
# Dates and instants

The proleptic Gregorian calendar for the years 1 to 9999. A date-time is a date, a time of day and
an optional offset from UTC; one without an offset is taken as UTC. Every date has a day number,
counted from 1 for the first of January of year 1, and every day number of the range has a date;
converting to UTC goes through the number of seconds since the start of year 1.

## Main definitions

* `TableClient.Date`, `TableClient.TimeOfDay`, `TableClient.DateTime` — the valid values only.
* `TableClient.Date.dayNumber`, `TableClient.Date.ofDayNumber?` — dates and day numbers.
* `TableClient.DateTime.utcSecond` — the second that a date-time denotes.
* `TableClient.DateTime.utc?` — the same instant in UTC, if it lies in the years 1 to 9999.
* `TableClient.DateTime.isoText` — the ISO text of a date-time.
-/

set_option relaxedAutoImplicit false
set_option autoImplicit false

namespace TableClient

/-- Whether a year has 366 days. -/
def isLeapYear (year : Nat) : Bool :=
  year % 4 == 0 && (year % 100 != 0 || year % 400 == 0)

/-- The lengths of the months of a year, in order. -/
def monthLengths (year : Nat) : List Nat :=
  [31, if isLeapYear year then 29 else 28, 31, 30, 31, 30, 31, 31, 30, 31, 30, 31]

/-- The number of days of a month; months are counted from 1. -/
def daysInMonth (year month : Nat) : Nat := (monthLengths year).getD (month - 1) 0

/-- The number of days before the first of January of a year. -/
def daysBeforeYear (year : Nat) : Nat :=
  let y := year - 1
  365 * y + y / 4 - y / 100 + y / 400

/-- A date of the years 1 to 9999. -/
structure Date where
  year : Nat
  month : Nat
  day : Nat
  year_mem : 1 ≤ year ∧ year ≤ 9999
  month_mem : 1 ≤ month ∧ month ≤ 12
  day_mem : 1 ≤ day ∧ day ≤ daysInMonth year month
deriving DecidableEq

/-- A time of day to the microsecond. -/
structure TimeOfDay where
  hour : Nat
  minute : Nat
  second : Nat
  microsecond : Nat
  hour_lt : hour < 24
  minute_lt : minute < 60
  second_lt : second < 60
  microsecond_lt : microsecond < 1000000
deriving DecidableEq

/-- A distance from UTC in seconds, less than a day either way. -/
structure Offset where
  seconds : Int
  seconds_mem : -86400 < seconds ∧ seconds < 86400
deriving DecidableEq

/-- A date and time of day, with an offset from UTC unless it is taken as UTC. -/
structure DateTime where
  date : Date
  time : TimeOfDay
  offset : Option Offset
deriving DecidableEq

namespace Date

/-- The date with the given parts, if there is one. -/
def ofParts? (year month day : Nat) : Option Date :=
  if h : (1 ≤ year ∧ year ≤ 9999) ∧ (1 ≤ month ∧ month ≤ 12) ∧
      (1 ≤ day ∧ day ≤ daysInMonth year month) then
    some ⟨year, month, day, h.1, h.2.1, h.2.2⟩
  else none

/-- The number of the day, counted from 1 for the first of January of year 1. -/
def dayNumber (d : Date) : Nat :=
  daysBeforeYear d.year + ((monthLengths d.year).take (d.month - 1)).foldl (· + ·) 0 + d.day

/-- The largest day number, that of the last of December of year 9999. -/
def lastDayNumber : Nat := 3652059

/-- The month and day of the month for a day of the year, both counted from 1, given the lengths of
the months from `month` on. -/
def monthAndDay (month : Nat) : List Nat → Nat → Nat × Nat
  | [], day => (month, day)
  | length :: lengths, day =>
    if day ≤ length then (month, day) else monthAndDay (month + 1) lengths (day - length)

/-- The year that a day number falls into. Cycles of 400, 100, 4 and 1 years are taken off in
turn; the last day of a cycle that ends with a leap year stays in that year. -/
def yearOfDayNumber (n : Nat) : Nat :=
  let d := n - 1
  let n400 := d / 146097
  let d := d % 146097
  let n100 := min (d / 36524) 3
  let d := d - 36524 * n100
  let n4 := d / 1461
  let d := d % 1461
  let n1 := min (d / 365) 3
  400 * n400 + 100 * n100 + 4 * n4 + n1 + 1

/-- The date with the given day number, if it lies in the years 1 to 9999. -/
def ofDayNumber? (n : Int) : Option Date :=
  if 1 ≤ n ∧ n ≤ lastDayNumber then
    let year := yearOfDayNumber n.toNat
    let (month, day) := monthAndDay 1 (monthLengths year) (n.toNat - daysBeforeYear year)
    ofParts? year month day
  else none

/-- The month and day of a date, both with two digits, as they follow the year. -/
def monthDayText (d : Date) : String :=
  String.ofList ('-' :: Numeral.padded 2 d.month ++ '-' :: Numeral.padded 2 d.day)

/-- The ISO text of a date, with a year of four digits. -/
def isoText (d : Date) : String :=
  String.ofList (Numeral.padded 4 d.year) ++ d.monthDayText

end Date

namespace TimeOfDay

/-- The time with the given parts, if there is one. -/
def ofParts? (hour minute second microsecond : Nat) : Option TimeOfDay :=
  if h : hour < 24 ∧ minute < 60 ∧ second < 60 ∧ microsecond < 1000000 then
    some ⟨hour, minute, second, microsecond, h.1, h.2.1, h.2.2.1, h.2.2.2⟩
  else none

/-- The number of full seconds since midnight. -/
def secondOfDay (t : TimeOfDay) : Nat := t.hour * 3600 + t.minute * 60 + t.second

/-- Hour, minute and second with two digits each. -/
def text (t : TimeOfDay) : String :=
  String.ofList (Numeral.padded 2 t.hour ++ ':' :: Numeral.padded 2 t.minute ++
    ':' :: Numeral.padded 2 t.second)

/-- The time with six digits of microseconds, left out when they are zero. -/
def isoText (t : TimeOfDay) : String :=
  if t.microsecond = 0 then t.text
  else t.text ++ String.ofList ('.' :: Numeral.padded 6 t.microsecond)

end TimeOfDay

namespace Offset

/-- The offset of the given number of seconds, if it is less than a day. -/
def ofSeconds? (n : Int) : Option Offset :=
  if h : -86400 < n ∧ n < 86400 then some ⟨n, h⟩ else none

/-- The offset as sign, hours and minutes, with the seconds when they are not zero. -/
def text (o : Offset) : String :=
  let n := o.seconds.natAbs
  let seconds := if n % 60 = 0 then [] else ':' :: Numeral.padded 2 (n % 60)
  String.ofList ((if o.seconds < 0 then '-' else '+') :: Numeral.padded 2 (n / 3600) ++
    ':' :: Numeral.padded 2 (n / 60 % 60) ++ seconds)

end Offset

namespace DateTime

/-- The number of full seconds from the start of year 1 in UTC to the instant. -/
def utcSecond (t : DateTime) : Int :=
  ((t.date.dayNumber : Int) - 1) * 86400 + t.time.secondOfDay -
    (t.offset.map Offset.seconds).getD 0

/-- The date and time of day, in UTC, of a number of seconds since the start of year 1. -/
def ofUtcSecond? (n : Int) (microsecond : Nat) : Option DateTime :=
  (Date.ofDayNumber? (n / 86400 + 1)).bind fun date =>
    let s := (n % 86400).toNat
    (TimeOfDay.ofParts? (s / 3600) (s / 60 % 60) (s % 60) microsecond).map fun time =>
      ⟨date, time, none⟩

/-- The same instant as a date and time of day in UTC. A date-time without an offset is left as it
is; another one may fall outside the years 1 to 9999. -/
def utc? (t : DateTime) : Option DateTime :=
  match t.offset with
  | none => some t
  | some _ => ofUtcSecond? t.utcSecond t.time.microsecond

/-- The ISO text of a date-time with the given separator between date and time. -/
def isoText (separator : String) (t : DateTime) : String :=
  t.date.isoText ++ separator ++ t.time.isoText ++ (t.offset.map Offset.text).getD ""

end DateTime

end TableClient
