import Mathlib.Tactic.Lemma
import TableClient.Calendar

set_option relaxedAutoImplicit false
set_option autoImplicit false

/-!
# The range of the calendar

Every day number from 1 to 3652059 has a date, and every date has a day number in that range.
Converting a date-time to UTC therefore fails only when its instant lies outside the years 1 to
9999.

## Main definitions

* `TableClient.DateTime.InCalendar` — the instant lies in the years 1 to 9999 in UTC.

## Main results

* `TableClient.Date.dayNumber_mem`, `TableClient.Date.isSome_ofDayNumber?` — dates and day numbers
  cover the same range.
* `TableClient.DateTime.isSome_utc?_iff` — converting to UTC succeeds exactly inside the calendar.
-/

namespace TableClient

/-! ### Lengths of months and years -/

/-- The sum of lengths of months. -/
def totalDays (lengths : List Nat) : Nat := lengths.foldl (· + ·) 0

/-- A sum that starts with `n` is `n` larger. -/
lemma foldl_add (n : Nat) (ns : List Nat) : ns.foldl (· + ·) n = n + totalDays ns := by
  unfold totalDays
  induction ns generalizing n with
  | nil => rfl
  | cons m ns ih =>
    rw [List.foldl_cons, List.foldl_cons, ih (n + m), ih (0 + m)]
    omega

/-- The sum of lengths starts with the first. -/
lemma totalDays_cons (n : Nat) (ns : List Nat) : totalDays (n :: ns) = n + totalDays ns := by
  rw [← foldl_add n ns]
  simp [totalDays]

/-- The months of a year add up to its days. -/
lemma totalDays_monthLengths (year : Nat) :
    totalDays (monthLengths year) = if isLeapYear year then 366 else 365 := by
  unfold totalDays monthLengths
  cases isLeapYear year <;> rfl

/-- No number of months of a year is longer than the year. -/
lemma totalDays_take_le (lengths : List Nat) (i : Nat) :
    totalDays (lengths.take i) + lengths.getD i 0 ≤ totalDays lengths := by
  induction lengths generalizing i with
  | nil => simp [totalDays]
  | cons n ns ih =>
    cases i with
    | zero =>
      rw [totalDays_cons]
      simp [totalDays]
    | succ i =>
      have := ih i
      simp only [List.take_succ_cons, List.getD_cons_succ, totalDays_cons]
      omega

/-- The days before a year, and whether it is a leap year, by the place of the year in the cycles of
400, 100 and 4 years. -/
lemma daysBeforeYear_of_cycles {a b c e : Nat} (hb : b ≤ 3) (hc : c ≤ 24) (he : e ≤ 3) :
    daysBeforeYear (400 * a + 100 * b + 4 * c + e + 1) =
        146097 * a + 36524 * b + 1461 * c + 365 * e ∧
      (isLeapYear (400 * a + 100 * b + 4 * c + e + 1) = true ↔ e = 3 ∧ (c < 24 ∨ b = 3)) := by
  simp only [daysBeforeYear, isLeapYear, Nat.add_sub_cancel, Bool.and_eq_true, Bool.or_eq_true,
    beq_iff_eq, bne_iff_ne]
  constructor <;> omega

/-! ### Day numbers -/

namespace Date

/-- The cycles that are taken off a day number leave a day of one year. The last day of a cycle that
ends with a leap year is the 366th day of that year. -/
lemma yearOfDayNumber_cycles {n : Nat} (h : 1 ≤ n) :
    ∃ a b c e r, yearOfDayNumber n = 400 * a + 100 * b + 4 * c + e + 1 ∧
      n = 146097 * a + 36524 * b + 1461 * c + 365 * e + r + 1 ∧ b ≤ 3 ∧ c ≤ 24 ∧ e ≤ 3 ∧
      (r < 365 ∨ r = 365 ∧ e = 3 ∧ (c < 24 ∨ b = 3)) := by
  unfold yearOfDayNumber
  dsimp only
  generalize ha : (n - 1) / 146097 = a
  generalize hd₁ : (n - 1) % 146097 = d₁
  generalize hb : min (d₁ / 36524) 3 = b
  generalize hd₂ : d₁ - 36524 * b = d₂
  generalize hc : d₂ / 1461 = c
  generalize hd₃ : d₂ % 1461 = d₃
  generalize he : min (d₃ / 365) 3 = e
  have hb₃ : b ≤ 3 := by omega
  -- the last day of 400 years is left by three full centuries
  have hd : d₂ < 36524 ∨ d₂ = 36524 ∧ b = 3 := by omega
  have hc₂₄ : c ≤ 24 := by omega
  have he₃ : e ≤ 3 := by omega
  -- the last day of four years is left by three full years
  have hr : d₃ - 365 * e < 365 ∨ d₃ = 1460 ∧ e = 3 := by omega
  refine ⟨a, b, c, e, d₃ - 365 * e, rfl, by omega, hb₃, hc₂₄, he₃, ?_⟩
  omega

/-- The year of a day number is the one in which the day lies. -/
lemma yearOfDayNumber_mem {n : Nat} (h₁ : 1 ≤ n) (h₂ : n ≤ lastDayNumber) :
    (1 ≤ yearOfDayNumber n ∧ yearOfDayNumber n ≤ 9999) ∧ daysBeforeYear (yearOfDayNumber n) < n ∧
      n - daysBeforeYear (yearOfDayNumber n) ≤ totalDays (monthLengths (yearOfDayNumber n)) := by
  obtain ⟨a, b, c, e, r, hy, hn, hb, hc, he, hr⟩ := yearOfDayNumber_cycles h₁
  obtain ⟨hdays, hleap⟩ := daysBeforeYear_of_cycles (a := a) hb hc he
  rw [totalDays_monthLengths, hy, hdays]
  unfold lastDayNumber at h₂
  refine ⟨by omega, by omega, ?_⟩
  split
  · omega
  · have := mt hleap.2 ‹_›
    omega

/-- A day of the year lies in a month of the year, behind the days of the months before it. -/
lemma monthAndDay_mem (month : Nat) (lengths : List Nat) (day : Nat) (h₁ : 1 ≤ day)
    (h₂ : day ≤ totalDays lengths) :
    ∃ i < lengths.length, (monthAndDay month lengths day).1 = month + i ∧
      (1 ≤ (monthAndDay month lengths day).2 ∧
        (monthAndDay month lengths day).2 ≤ lengths.getD i 0) ∧
      totalDays (lengths.take i) + (monthAndDay month lengths day).2 = day := by
  induction lengths generalizing month day with
  | nil => simp only [totalDays, List.foldl_nil] at h₂; omega
  | cons n ns ih =>
    rw [totalDays_cons] at h₂
    unfold monthAndDay
    split
    · exact ⟨0, by simp, rfl, ⟨h₁, by simpa⟩, Nat.zero_add day⟩
    · obtain ⟨i, hi, hm, hd, hsum⟩ := ih (month + 1) (day - n) (by omega) (by omega)
      refine ⟨i + 1, by simpa using hi, by omega, by simpa using hd, ?_⟩
      rw [List.take_succ_cons, totalDays_cons]
      omega

/-- **Every day number has a date** in the years 1 to 9999, and no other number has one.

**Proof sketch.** The cycles taken off the day number lead to a year that contains the day
(`yearOfDayNumber_mem`), and the day of the year to a month that contains it
(`monthAndDay_mem`). -/
theorem isSome_ofDayNumber? (n : Int) :
    (ofDayNumber? n).isSome = true ↔ 1 ≤ n ∧ n ≤ lastDayNumber := by
  unfold ofDayNumber?
  split
  · rename_i h
    have h₁ : 1 ≤ n.toNat := by omega
    have h₂ : n.toNat ≤ lastDayNumber := by omega
    obtain ⟨hy, hlt, hle⟩ := yearOfDayNumber_mem h₁ h₂
    obtain ⟨i, hi, hm, hd, -⟩ := monthAndDay_mem 1 _ _ (by omega) hle
    have hi₁₂ : i < 12 := hi
    simp only [h, ofParts?, daysInMonth, hm, and_self, iff_true]
    rw [dif_pos ⟨hy, by omega, by simpa using hd⟩]
    rfl
  · rename_i h
    simp only [Option.isSome_none, Bool.false_eq_true, false_iff]
    exact h

/-- The day number of a date lies in the range of the calendar. -/
theorem dayNumber_mem (d : Date) : 1 ≤ d.dayNumber ∧ d.dayNumber ≤ lastDayNumber := by
  have hmonth := totalDays_take_le (monthLengths d.year) (d.month - 1)
  have hday := d.day_mem
  have hyear := d.year_mem
  have hbefore : daysBeforeYear d.year + totalDays (monthLengths d.year) ≤ lastDayNumber := by
    rw [totalDays_monthLengths]
    unfold daysBeforeYear lastDayNumber isLeapYear
    simp only [Bool.and_eq_true, Bool.or_eq_true, beq_iff_eq, bne_iff_ne]
    split <;> omega
  unfold daysInMonth at hday
  unfold dayNumber
  rw [foldl_add, Nat.zero_add]
  omega

end Date

/-! ### Instants -/

/-- A time of day is less than a day. -/
lemma TimeOfDay.secondOfDay_lt (t : TimeOfDay) : t.secondOfDay < 86400 := by
  have := t.hour_lt
  have := t.minute_lt
  have := t.second_lt
  unfold secondOfDay
  omega

namespace DateTime

/-- The instant of a date-time lies in the years 1 to 9999 in UTC: from the first second of its
3652059 days to the last. -/
def InCalendar (t : DateTime) : Prop := 0 ≤ t.utcSecond ∧ t.utcSecond < 3652059 * 86400

instance (t : DateTime) : Decidable t.InCalendar :=
  inferInstanceAs (Decidable (_ ∧ _))

/-- **Converting to UTC succeeds exactly inside the calendar.** -/
theorem isSome_utc?_iff (t : DateTime) : t.utc?.isSome = true ↔ t.InCalendar := by
  unfold utc? InCalendar
  cases ho : t.offset with
  | none =>
    have hday := t.date.dayNumber_mem
    have hsec := t.time.secondOfDay_lt
    simp only [Date.lastDayNumber] at hday
    simp only [Option.isSome_some, true_iff, utcSecond, ho, Option.map_none, Option.getD_none]
    omega
  | some o =>
    have htime : (TimeOfDay.ofParts? ((t.utcSecond % 86400).toNat / 3600)
        ((t.utcSecond % 86400).toNat / 60 % 60) ((t.utcSecond % 86400).toNat % 60)
        t.time.microsecond).isSome := by
      have hm := t.time.microsecond_lt
      unfold TimeOfDay.ofParts?
      rw [dif_pos ⟨by omega, by omega, by omega, hm⟩]
      rfl
    obtain ⟨time, ht⟩ := Option.isSome_iff_exists.1 htime
    have hutc : (ofUtcSecond? t.utcSecond t.time.microsecond).isSome =
        (Date.ofDayNumber? (t.utcSecond / 86400 + 1)).isSome := by
      simp only [ofUtcSecond?, ht]
      cases Date.ofDayNumber? (t.utcSecond / 86400 + 1) <;> rfl
    rw [hutc, Date.isSome_ofDayNumber?, Date.lastDayNumber]
    omega

end DateTime

end TableClient
