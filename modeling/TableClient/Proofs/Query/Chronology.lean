import Mathlib.Data.List.Forall2
import TableClient.Proofs.Decimal.Order
import TableClient.Proofs.Query.Instants

set_option relaxedAutoImplicit false
set_option autoImplicit false

/-!
# The order of date-times in tokens

The text of a date-time is made to be compared as a text: of two digits each behind the year, the
parts stand from the largest to the smallest. The year itself is not filled up with zeros, so that
the text has the form `YYYY-MM-DD HH:MM:SS` from year 1000 on only. The order of two texts is that
of the seconds that they stand for unless the later year, cut to as many digits as the earlier one
has, is the smaller number: year 999 is behind year 1000, but year 10 is before year 100.

## Main definitions

* `TableClient.Query.IsCanonical` — the form `YYYY-MM-DD HH:MM:SS`.
* `TableClient.Query.InOrder` — two texts are ordered as two seconds.

## Main results

* `TableClient.DateTime.fields_lt_iff` — the order of seconds is the order of what is shown.
* `TableClient.Query.dateTimeText?_chronological` — the form and the order of the texts.
* `TableClient.Query.year_999_late` — the last second of year 999 comes behind its successor.
-/

namespace TableClient

/-! ### The order of dates and times -/

namespace Date

variable {d e : Date}

/-- The days before a month, together with any day of an earlier month, are not reached. -/
lemma totalDays_take_mono (lengths : List Nat) {i j : Nat} (h : i < j) :
    totalDays (lengths.take i) + lengths.getD i 0 ≤ totalDays (lengths.take j) := by
  induction h with
  | refl => exact Nat.le_of_eq (totalDays_take_succ lengths i).symm
  | step h ih =>
    rw [totalDays_take_succ]
    omega

/-- All dates of a year come before those of a later one. -/
lemma dayNumber_lt_of_year (h : d.year < e.year) : d.dayNumber < e.dayNumber := by
  have hyear := d.year_mem.1
  have hday := e.day_mem.1
  have hlast := d.dayNumber_le
  have hnext := daysBeforeYear_mono (by omega) (Nat.succ_le_of_lt h)
  rw [Nat.succ_eq_add_one, daysBeforeYear_succ hyear] at hnext
  rw [e.dayNumber_eq]
  omega

/-- All dates of a month come before those of a later one of the same year. -/
lemma dayNumber_lt_of_month (hyear : d.year = e.year) (h : d.month < e.month) :
    d.dayNumber < e.dayNumber := by
  have hmonth := d.month_mem.1
  have hday := e.day_mem.1
  have hlast : d.day ≤ (monthLengths e.year).getD (d.month - 1) 0 := hyear ▸ d.day_mem.2
  have hnext := totalDays_take_mono (monthLengths e.year)
    (show d.month - 1 < e.month - 1 by omega)
  rw [dayNumber_eq, dayNumber_eq, hyear]
  omega

/-- Dates of one month are ordered by their days. -/
lemma dayNumber_lt_of_day (hyear : d.year = e.year) (hmonth : d.month = e.month)
    (h : d.day < e.day) : d.dayNumber < e.dayNumber := by
  rw [dayNumber_eq, dayNumber_eq, hyear, hmonth]
  omega

end Date

namespace DateTime

variable {t u v : DateTime}

/-- What calendar and clock show goes up with the seconds. -/
lemma utcSecond_lt_of_fields (hu : u.offset = none) (hv : v.offset = none)
    (h : u.fields < v.fields) : u.utcSecond < v.utcSecond := by
  have hutime := u.time.secondOfDay_lt
  rw [utcSecond_of_utc hu, utcSecond_of_utc hv]
  simp only [fields, List.cons_lt_cons_iff, List.lt_irrefl, and_false, or_false] at h
  rcases h with hyear | ⟨hyear, hmonth | ⟨hmonth, hday | ⟨hday, htime⟩⟩⟩
  · have := Date.dayNumber_lt_of_year hyear
    omega
  · have := Date.dayNumber_lt_of_month hyear hmonth
    omega
  · have := Date.dayNumber_lt_of_day hyear hmonth hday
    omega
  · have := u.time.minute_lt
    have := u.time.second_lt
    rw [Date.dayNumber_eq, Date.dayNumber_eq, hyear, hmonth, hday, TimeOfDay.secondOfDay,
      TimeOfDay.secondOfDay]
    omega

/-- **The order of seconds is the order of what is shown at them**, from the year to the second. -/
theorem fields_lt_iff (hu : u.offset = none) (hv : v.offset = none) :
    u.fields < v.fields ↔ u.utcSecond < v.utcSecond := by
  refine ⟨utcSecond_lt_of_fields hu hv, fun h => ?_⟩
  rcases lt_trichotomy u.fields v.fields with hlt | heq | hgt
  · exact hlt
  · have := utcSecond_eq_of_fields hu hv heq
    omega
  · have := utcSecond_lt_of_fields hv hu hgt
    omega

end DateTime

namespace Numeral

variable {m n : Nat}

/-- Numbers below 100 have two digits when they are filled up. -/
lemma padded_two (h : n < 100) : padded 2 n = [digitChar (n / 10), digitChar (n % 10)] := by
  by_cases hn : n < 10
  · rw [padded, ofNat_of_lt hn, Nat.div_eq_of_lt hn, Nat.mod_eq_of_lt hn]
    rfl
  · rw [padded, ofNat_of_le (by omega), ofNat_of_lt (by omega : n / 10 < 10)]
    rfl

/-- Texts that begin with numbers below 100 in two digits are ordered by these first. -/
lemma padded_append_lt_iff (hm : m < 100) (hn : n < 100) (xs ys : List Char) :
    padded 2 m ++ xs < padded 2 n ++ ys ↔ m < n ∨ m = n ∧ xs < ys := by
  have htens : m / 10 < 10 := by omega
  have htens' : n / 10 < 10 := by omega
  have hones : m % 10 < 10 := Nat.mod_lt m (by decide)
  have hones' : n % 10 < 10 := Nat.mod_lt n (by decide)
  rw [padded_two hm, padded_two hn]
  simp only [List.cons_append, List.nil_append, List.cons_lt_cons_iff,
    digitChar_lt_iff htens htens', digitChar_lt_iff hones hones', digitChar_inj htens htens',
    digitChar_inj hones hones']
  have hsame : m = n ↔ m / 10 = n / 10 ∧ m % 10 = n % 10 := by omega
  have hless : m < n ↔ m / 10 < n / 10 ∨ m / 10 = n / 10 ∧ m % 10 < n % 10 := by omega
  rw [hsame, hless]
  tauto

/-- The same where nothing follows. -/
lemma padded_lt_iff (hm : m < 100) (hn : n < 100) : padded 2 m < padded 2 n ↔ m < n := by
  have h := padded_append_lt_iff hm hn [] []
  simpa using h

end Numeral

namespace Query

variable {t t' u u' v : DateTime} {text text' : String} {second second' : Int}

/-! ### The order of texts -/

/-- What stands behind the year and its dash in the text of what calendar and clock show. -/
def restText (u : DateTime) : List Char :=
  Numeral.padded 2 u.date.month ++ '-' :: (Numeral.padded 2 u.date.day ++
    ' ' :: (Numeral.padded 2 u.time.hour ++ ':' :: (Numeral.padded 2 u.time.minute ++
      ':' :: Numeral.padded 2 u.time.second)))

/-- The characters of the text are the year and the rest. -/
lemma toList_clockText_year (u : DateTime) :
    (clockText u).toList = Numeral.ofNat u.date.year ++ '-' :: restText u :=
  toList_clockText u

/-- The months and days of dates have two digits. -/
lemma month_day_lt (d : Date) : d.month < 100 ∧ d.day < 100 := by
  have hmonth := d.month_mem
  have hday := d.day_mem.2
  have hlengths : ∀ n ∈ monthLengths d.year, n < 100 := by
    unfold monthLengths
    cases isLeapYear d.year <;> decide
  have hindex : d.month - 1 < (monthLengths d.year).length := by
    show d.month - 1 < 12
    omega
  have hlength := hlengths _ (List.getElem_mem hindex)
  rw [List.getElem_eq_getD 0] at hlength
  unfold daysInMonth at hday
  omega

/-- **Behind the year, the texts are ordered as what they show.** -/
theorem restText_lt_iff (u v : DateTime) :
    restText u < restText v ↔ u.fields.tail < v.fields.tail := by
  obtain ⟨hmonth, hday⟩ := month_day_lt u.date
  obtain ⟨hmonth', hday'⟩ := month_day_lt v.date
  have htime := u.time.hour_lt
  have htime' := v.time.hour_lt
  have hminute := u.time.minute_lt
  have hminute' := v.time.minute_lt
  have hsecond := u.time.second_lt
  have hsecond' := v.time.second_lt
  rw [restText, restText, Numeral.padded_append_lt_iff hmonth hmonth', List.cons_lt_cons_self,
    Numeral.padded_append_lt_iff hday hday', List.cons_lt_cons_self,
    Numeral.padded_append_lt_iff (by omega) (by omega), List.cons_lt_cons_self,
    Numeral.padded_append_lt_iff (by omega) (by omega), List.cons_lt_cons_self,
    Numeral.padded_lt_iff (by omega) (by omega)]
  simp only [DateTime.fields, List.tail_cons, List.cons_lt_cons_iff, List.lt_irrefl, and_false,
    or_false]

/-- Two texts are ordered as two seconds. -/
def InOrder (text text' : String) (second second' : Int) : Prop :=
  (text < text' ↔ second < second') ∧ (text' < text ↔ second' < second)

instance : Decidable (InOrder text text' second second') := inferInstanceAs (Decidable (_ ∧ _))

/-- Years first, and within a year the rest. -/
lemma utcSecond_lt_iff (hu : u.offset = none) (hv : v.offset = none) :
    u.utcSecond < v.utcSecond ↔
      u.date.year < v.date.year ∨ u.date.year = v.date.year ∧ restText u < restText v := by
  rw [← DateTime.fields_lt_iff hu hv, restText_lt_iff]
  exact List.cons_lt_cons_iff

/-- **The texts of what is shown in UTC are in order unless one of the years overtakes the
other.** -/
theorem clockText_inOrder_iff (hu : u.offset = none) (hv : v.offset = none) :
    InOrder (clockText u) (clockText v) u.utcSecond v.utcSecond ↔
      ¬ Numeral.Overtakes u.date.year v.date.year ∧
        ¬ Numeral.Overtakes v.date.year u.date.year := by
  rw [← Numeral.ofNat_append_ordered_iff (show '-' < '0' by decide) (restText u) (restText v),
    ← toList_clockText_year, ← toList_clockText_year, InOrder, utcSecond_lt_iff hu hv,
    utcSecond_lt_iff hv hu]
  exact Iff.rfl

/-- Years of one length do not overtake each other. -/
lemma not_overtakes {m n : Nat} (h : (Numeral.ofNat m).length = (Numeral.ofNat n).length) :
    ¬ Numeral.Overtakes m n := by
  rw [Numeral.Overtakes, h, Nat.sub_self, Nat.pow_zero, Nat.div_one]
  omega

/-! ### The form of texts -/

/-- A character stands where the form has one: a digit for a letter, all others for themselves. -/
def Fills (c place : Char) : Prop :=
  if place.isAlpha then (Numeral.digitValue? c).isSome else c = place

/-- The text has the canonical form of four digits for the year and two for all other parts. -/
def IsCanonical (text : String) : Prop :=
  List.Forall₂ Fills text.toList "YYYY-MM-DD HH:MM:SS".toList

/-- The length of a year. -/
lemma length_year (u : DateTime) :
    (Numeral.ofNat u.date.year).length = 4 ↔ 1000 ≤ u.date.year := by
  have hyear := u.date.year_mem
  have hfour := Numeral.length_ofNat_le_iff u.date.year 3
  have hthree := Numeral.length_ofNat_le_iff u.date.year 2
  omega

/-- Digits fill places for digits. -/
lemma forall₂_fills_digits {cs places : List Char} (hlength : cs.length = places.length)
    (hcs : ∀ c ∈ cs, (Numeral.digitValue? c).isSome = true)
    (hplaces : ∀ place ∈ places, place.isAlpha = true) : List.Forall₂ Fills cs places := by
  rw [List.forall₂_iff_zip]
  refine ⟨hlength, fun {c place} h => ?_⟩
  obtain ⟨hc, hplace⟩ := List.of_mem_zip h
  rw [Fills, if_pos (hplaces place hplace)]
  exact hcs c hc

/-- A number below 100 in two digits fills two places for digits. -/
lemma fills_padded {n : Nat} (h : n < 100) {place place' : Char} (hplace : place.isAlpha = true)
    (hplace' : place'.isAlpha = true) :
    List.Forall₂ Fills (Numeral.padded 2 n) [place, place'] := by
  refine forall₂_fills_digits ?_ (Numeral.isSome_of_mem_padded 2 n) ?_
  · rw [Numeral.padded_two h]
    rfl
  · simp [hplace, hplace']

/-- The text of what is shown is as long as the year and 15 more characters. -/
lemma length_clockText (u : DateTime) :
    (clockText u).toList.length = (Numeral.ofNat u.date.year).length + 15 := by
  obtain ⟨hmonth, hday⟩ := month_day_lt u.date
  have hhour := u.time.hour_lt
  have hminute := u.time.minute_lt
  have hsecond := u.time.second_lt
  rw [toList_clockText_year, restText, Numeral.padded_two hmonth, Numeral.padded_two hday,
    Numeral.padded_two (by omega), Numeral.padded_two (by omega), Numeral.padded_two (by omega),
    List.length_append]
  rfl

/-- The rest of the text has the form of the rest. -/
lemma fills_restText (u : DateTime) :
    List.Forall₂ Fills (restText u) "MM-DD HH:MM:SS".toList := by
  obtain ⟨hmonth, hday⟩ := month_day_lt u.date
  have hhour := u.time.hour_lt
  have hminute := u.time.minute_lt
  have hsecond := u.time.second_lt
  have htwo {n : Nat} (h : n < 100) {place place' separator : Char} (hplace : place.isAlpha = true)
      (hplace' : place'.isAlpha = true) (hseparator : separator.isAlpha = false)
      {cs places : List Char} (hrest : List.Forall₂ Fills cs places) :
      List.Forall₂ Fills (Numeral.padded 2 n ++ separator :: cs)
        ([place, place'] ++ separator :: places) :=
    List.rel_append (fills_padded h hplace hplace') (.cons (by simp [Fills, hseparator]) hrest)
  exact htwo hmonth rfl rfl rfl (htwo hday rfl rfl rfl (htwo (by omega) rfl rfl rfl
    (htwo (by omega) rfl rfl rfl (fills_padded (by omega) rfl rfl))))

/-- **The text of what is shown is canonical from year 1000 on only.** -/
theorem isCanonical_clockText_iff (u : DateTime) :
    IsCanonical (clockText u) ↔ 1000 ≤ u.date.year := by
  rw [← length_year]
  constructor
  · intro h
    have hlength := List.Forall₂.length_eq h
    rw [length_clockText] at hlength
    exact Nat.add_right_cancel hlength
  · intro h
    rw [IsCanonical, toList_clockText_year]
    have hyear : List.Forall₂ Fills (Numeral.ofNat u.date.year) ['Y', 'Y', 'Y', 'Y'] :=
      forall₂_fills_digits h (Numeral.isSome_of_mem_ofNat _) (by simp)
    exact List.rel_append hyear (.cons rfl (fills_restText u))

/-- **The form and the order of the texts of date-times.** A date-time for which something is shown
in UTC has a text, of the form `YYYY-MM-DD HH:MM:SS` exactly when the year shown has four digits.
Two such texts are ordered as the seconds that the date-times denote exactly when neither of the
years shown overtakes the other; so they are always in order from year 1000 on.

**Proof sketch.** The text is that of what is shown (`dateTimeText?_eq_some_iff`). Behind the year
all parts have two digits, so that texts with one year are ordered as what they show
(`restText_lt_iff`), which is the order of the seconds (`DateTime.fields_lt_iff`). Years are
compared as numerals that end at a dash (`Numeral.ofNat_append_ordered_iff`). -/
theorem dateTimeText?_chronological (hu : t.ShownInUtc u) (hu' : t'.ShownInUtc u')
    (hsecond : t.Denotes second) (hsecond' : t'.Denotes second') :
    ∃ text text', dateTimeText? t = some text ∧ dateTimeText? t' = some text' ∧
      (IsCanonical text ↔ 1000 ≤ u.date.year) ∧
      (InOrder text text' second second' ↔
        ¬ Numeral.Overtakes u.date.year u'.date.year ∧
          ¬ Numeral.Overtakes u'.date.year u.date.year) ∧
      (1000 ≤ u.date.year → 1000 ≤ u'.date.year → InOrder text text' second second') := by
  obtain ⟨hutc, hshown⟩ := DateTime.shownInUtc_iff.1 hu
  obtain ⟨hutc', hshown'⟩ := DateTime.shownInUtc_iff.1 hu'
  have horder := clockText_inOrder_iff hutc hutc'
  rw [hshown, hshown', DateTime.denotes_iff.1 hsecond, DateTime.denotes_iff.1 hsecond'] at horder
  refine ⟨clockText u, clockText u', dateTimeText?_eq_some_iff.2 ⟨u, hu, rfl⟩,
    dateTimeText?_eq_some_iff.2 ⟨u', hu', rfl⟩, isCanonical_clockText_iff u, horder, ?_⟩
  intro h h'
  have hlength := ((length_year u).2 h).trans ((length_year u').2 h').symm
  exact horder.2 ⟨not_overtakes hlength, not_overtakes hlength.symm⟩

/-- New year in UTC, read off clocks west and east of Greenwich, comes in order. -/
theorem dateTimeText?_chronological_new_year :
    let t : DateTime := ⟨⟨2023, 12, 31, by decide, by decide, by decide⟩,
      ⟨18, 59, 59, 0, by decide, by decide, by decide, by decide⟩, some ⟨-18000, by decide⟩⟩
    let t' : DateTime := ⟨⟨2024, 1, 1, by decide, by decide, by decide⟩,
      ⟨1, 0, 0, 0, by decide, by decide, by decide, by decide⟩, some ⟨3600, by decide⟩⟩
    ∃ text text', dateTimeText? t = some text ∧ dateTimeText? t' = some text' ∧
      IsCanonical text ∧ InOrder text text' t.utcSecond t'.utcSecond := by
  intro t t'
  let u : DateTime := ⟨⟨2023, 12, 31, by decide, by decide, by decide⟩,
    ⟨23, 59, 59, 0, by decide, by decide, by decide, by decide⟩, none⟩
  let u' : DateTime := ⟨⟨2024, 1, 1, by decide, by decide, by decide⟩,
    ⟨0, 0, 0, 0, by decide, by decide, by decide, by decide⟩, none⟩
  have hu : t.ShownInUtc u := DateTime.shownInUtc_iff.2 ⟨rfl, by decide⟩
  have hu' : t'.ShownInUtc u' := DateTime.shownInUtc_iff.2 ⟨rfl, by decide⟩
  obtain ⟨text, text', htext, htext', hform, -, hlarge⟩ := dateTimeText?_chronological hu hu'
    (DateTime.denotes_iff.2 rfl) (DateTime.denotes_iff.2 rfl)
  exact ⟨text, text', htext, htext', hform.2 (by decide), hlarge (by decide) (by decide)⟩

/-- The last second of year 999 has a text of 18 characters, which comes behind that of the next
second. -/
theorem year_999_late :
    let t : DateTime := ⟨⟨999, 12, 31, by decide, by decide, by decide⟩,
      ⟨23, 59, 59, 0, by decide, by decide, by decide, by decide⟩, none⟩
    let t' : DateTime := ⟨⟨1000, 1, 1, by decide, by decide, by decide⟩,
      ⟨0, 0, 0, 0, by decide, by decide, by decide, by decide⟩, none⟩
    dateTimeText? t = some "999-12-31 23:59:59" ∧ dateTimeText? t' = some "1000-01-01 00:00:00" ∧
      ¬ IsCanonical "999-12-31 23:59:59" ∧ t.utcSecond + 1 = t'.utcSecond ∧
      "1000-01-01 00:00:00" < "999-12-31 23:59:59" := by
  intro t t'
  have htext : clockText t = "999-12-31 23:59:59" := by
    rw [← String.toList_inj, toList_clockText]
    simp [t, Numeral.padded, Numeral.ofNat, Numeral.digitChar]
  have htext' : clockText t' = "1000-01-01 00:00:00" := by
    rw [← String.toList_inj, toList_clockText]
    simp [t', Numeral.padded, Numeral.ofNat, Numeral.digitChar]
  refine ⟨congrArg some htext, congrArg some htext', ?_, by decide, by decide⟩
  rw [← htext, isCanonical_clockText_iff]
  decide

end Query

end TableClient
