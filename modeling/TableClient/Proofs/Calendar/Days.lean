import Mathlib.Data.Nat.Init
import Mathlib.Tactic.SplitIfs
import TableClient.Proofs.Calendar

set_option relaxedAutoImplicit false
set_option autoImplicit false

/-!
# Counting days

The calendar goes on day by day: to the next day of the month, to the first of the next month, or to
the first of January of the next year. The number of a date counts these steps from the first of
January of year 1, so that dates and their numbers determine each other, and a date-time denotes a
second that is counted without any formula.

## Main definitions

* `TableClient.Date.next?`, `TableClient.Date.afterDays?` — the next day, and the date after a
  number of days.
* `TableClient.DateTime.Denotes` — the second that a date-time denotes.
* `TableClient.DateTime.ShownInUtc` — what calendar and clock show in UTC at that second.

## Main results

* `TableClient.Date.ofDayNumber?_eq_some_iff` — the date of a day number is the one that has it.
* `TableClient.Date.afterDays?_eq_some_iff` — day numbers count days.
* `TableClient.DateTime.denotes_iff` — the second that a date-time denotes is unique.
* `TableClient.DateTime.exists_shownInUtc_iff` — the range of the calendar in UTC.
* `TableClient.DateTime.shownInUtc_of_utc?` — what a date-time is converted to.
-/

namespace TableClient

/-! ### Years and months -/

/-- A number contains one more multiple than its predecessor when it is one. -/
lemma div_of_pred {n : Nat} (h : 1 ≤ n) (k : Nat) :
    n / k = (n - 1) / k + if n % k = 0 then 1 else 0 := by
  obtain ⟨m, rfl⟩ := Nat.exists_eq_add_of_le' h
  rw [Nat.add_sub_cancel]
  split
  · rename_i hdvd
    exact Nat.succ_div_of_dvd (Nat.dvd_of_mod_eq_zero hdvd)
  · rename_i hdvd
    exact Nat.succ_div_of_not_dvd fun hd => hdvd (Nat.mod_eq_zero_of_dvd hd)

/-- A year begins when the days of the year before have passed. -/
lemma daysBeforeYear_succ {year : Nat} (h : 1 ≤ year) :
    daysBeforeYear (year + 1) = daysBeforeYear year + totalDays (monthLengths year) := by
  have hle : (year - 1) / 100 ≤ (year - 1) / 4 := by omega
  have h₁₀₀ : year % 100 = 0 → year % 4 = 0 := by omega
  have h₄₀₀ : year % 400 = 0 → year % 100 = 0 := by omega
  rw [totalDays_monthLengths]
  simp only [daysBeforeYear, isLeapYear, Nat.add_sub_cancel, Bool.and_eq_true, Bool.or_eq_true,
    beq_iff_eq, bne_iff_ne]
  rw [div_of_pred h 4, div_of_pred h 100, div_of_pred h 400]
  generalize (year - 1) / 4 = a at *
  generalize (year - 1) / 100 = b at *
  generalize (year - 1) / 400 = c at *
  split_ifs <;> omega

/-- Later years begin later. -/
lemma daysBeforeYear_mono {year year' : Nat} (hyear : 1 ≤ year) (h : year ≤ year') :
    daysBeforeYear year ≤ daysBeforeYear year' := by
  induction h with
  | refl => exact Nat.le_refl _
  | step hle ih =>
    rw [daysBeforeYear_succ (Nat.le_trans hyear hle)]
    omega

/-- A day lies in one year only. -/
lemma year_unique {n year year' : Nat} (hyear : 1 ≤ year) (hyear' : 1 ≤ year')
    (hlow : daysBeforeYear year < n)
    (hhigh : n ≤ daysBeforeYear year + totalDays (monthLengths year))
    (hlow' : daysBeforeYear year' < n)
    (hhigh' : n ≤ daysBeforeYear year' + totalDays (monthLengths year')) : year = year' := by
  rw [← daysBeforeYear_succ hyear] at hhigh
  rw [← daysBeforeYear_succ hyear'] at hhigh'
  rcases Nat.lt_trichotomy year year' with hlt | heq | hlt
  · have := daysBeforeYear_mono (Nat.le_add_left 1 year) hlt
    omega
  · exact heq
  · have := daysBeforeYear_mono (Nat.le_add_left 1 year') hlt
    omega

/-- A day of the year that lies in a month is found there. -/
lemma monthAndDay_take (month : Nat) (lengths : List Nat) (i day : Nat) (h₁ : 1 ≤ day)
    (h₂ : day ≤ lengths.getD i 0) :
    Date.monthAndDay month lengths (totalDays (lengths.take i) + day) = (month + i, day) := by
  induction lengths generalizing month i with
  | nil =>
    simp only [List.getD_nil] at h₂
    omega
  | cons n ns ih =>
    unfold Date.monthAndDay
    cases i with
    | zero =>
      have hday : day ≤ n := by simpa using h₂
      simp [totalDays, hday]
    | succ i =>
      rw [List.take_succ_cons, totalDays_cons, if_neg (by omega)]
      have hrest : n + totalDays (ns.take i) + day - n = totalDays (ns.take i) + day := by omega
      rw [hrest, ih (month + 1) i (by simpa using h₂)]
      congr 1
      omega

/-- A month more is the days of the month more. -/
lemma totalDays_take_succ (lengths : List Nat) (i : Nat) :
    totalDays (lengths.take (i + 1)) = totalDays (lengths.take i) + lengths.getD i 0 := by
  induction lengths generalizing i with
  | nil => simp [totalDays]
  | cons n ns ih =>
    cases i with
    | zero => simp [totalDays]
    | succ i =>
      rw [List.take_succ_cons, totalDays_cons, ih i, List.take_succ_cons, totalDays_cons,
        List.getD_cons_succ, Nat.add_assoc]

/-- A month has a first day. -/
lemma one_le_daysInMonth (year : Nat) {month : Nat} (h₁ : 1 ≤ month) (h₂ : month ≤ 12) :
    1 ≤ daysInMonth year month := by
  have hlengths : ∀ n ∈ monthLengths year, 1 ≤ n := by
    unfold monthLengths
    cases isLeapYear year <;> decide
  have hindex : month - 1 < (monthLengths year).length := by
    show month - 1 < 12
    omega
  have hfirst := hlengths _ (List.getElem_mem hindex)
  rwa [List.getElem_eq_getD 0] at hfirst

namespace Date

/-! ### Dates and their numbers -/

/-- The parts of a date are those of the date. -/
lemma ofParts?_self (d : Date) : ofParts? d.year d.month d.day = some d :=
  dif_pos ⟨d.year_mem, d.month_mem, d.day_mem⟩

/-- Parts that are in range make a date. -/
lemma exists_ofParts? {year month day : Nat} (hyear : 1 ≤ year ∧ year ≤ 9999)
    (hmonth : 1 ≤ month ∧ month ≤ 12) (hday : 1 ≤ day ∧ day ≤ daysInMonth year month) :
    ∃ d, ofParts? year month day = some d ∧ d.year = year ∧ d.month = month ∧ d.day = day :=
  ⟨⟨year, month, day, hyear, hmonth, hday⟩, dif_pos ⟨hyear, hmonth, hday⟩, rfl, rfl, rfl⟩

/-- A date that is made of parts has them. -/
lemma of_ofParts? {year month day : Nat} {d : Date} (h : ofParts? year month day = some d) :
    d.year = year ∧ d.month = month ∧ d.day = day := by
  unfold ofParts? at h
  split at h
  · cases h
    exact ⟨rfl, rfl, rfl⟩
  · cases h

/-- The number of a date is that of the day in its year, behind the days before the year. -/
lemma dayNumber_eq (d : Date) :
    d.dayNumber =
      daysBeforeYear d.year + totalDays ((monthLengths d.year).take (d.month - 1)) + d.day := by
  rw [dayNumber, foldl_add, Nat.zero_add]

/-- The day of a date lies in its year. -/
lemma dayNumber_le (d : Date) :
    d.dayNumber ≤ daysBeforeYear d.year + totalDays (monthLengths d.year) := by
  have hmonth := totalDays_take_le (monthLengths d.year) (d.month - 1)
  have hday : d.day ≤ (monthLengths d.year).getD (d.month - 1) 0 := d.day_mem.2
  rw [dayNumber_eq]
  omega

/-- The date of a day number of the calendar is made of the year and of the month and day in it. -/
lemma ofDayNumber?_of_mem {n : Int} (h : 1 ≤ n ∧ n ≤ lastDayNumber) :
    ofDayNumber? n =
      let year := yearOfDayNumber n.toNat
      let found := monthAndDay 1 (monthLengths year) (n.toNat - daysBeforeYear year)
      ofParts? year found.1 found.2 := if_pos h

/-- A date is that of its number. -/
lemma ofDayNumber?_dayNumber (d : Date) : ofDayNumber? d.dayNumber = some d := by
  have hmem := d.dayNumber_mem
  have hday := d.day_mem.1
  have hmonth := d.month_mem.1
  have hyear : yearOfDayNumber d.dayNumber = d.year := by
    obtain ⟨hyear, hlow, hhigh⟩ := yearOfDayNumber_mem hmem.1 hmem.2
    refine year_unique hyear.1 d.year_mem.1 hlow (by omega) ?_ d.dayNumber_le
    rw [dayNumber_eq]
    omega
  have hrest : d.dayNumber - daysBeforeYear d.year =
      totalDays ((monthLengths d.year).take (d.month - 1)) + d.day := by
    rw [dayNumber_eq]
    omega
  have hfound : monthAndDay 1 (monthLengths d.year) (d.dayNumber - daysBeforeYear d.year) =
      (d.month, d.day) := by
    rw [hrest, monthAndDay_take 1 _ _ _ hday d.day_mem.2]
    congr 1
    omega
  rw [ofDayNumber?_of_mem (by omega), Int.toNat_natCast, hyear]
  dsimp only
  rw [hfound]
  exact d.ofParts?_self

/-- A date that is made from a number has this number. -/
lemma dayNumber_of_ofDayNumber? {n : Int} {d : Date} (h : ofDayNumber? n = some d) :
    (d.dayNumber : Int) = n := by
  have hmem := (isSome_ofDayNumber? n).1 (Option.isSome_of_mem h)
  obtain ⟨hyear, hlow, hhigh⟩ := @yearOfDayNumber_mem n.toNat (by omega) (by omega)
  obtain ⟨i, -, hmonth, -, hsum⟩ := monthAndDay_mem 1 (monthLengths (yearOfDayNumber n.toNat))
    (n.toNat - daysBeforeYear (yearOfDayNumber n.toNat)) (by omega) hhigh
  rw [ofDayNumber?_of_mem hmem] at h
  dsimp only at h
  generalize monthAndDay 1 (monthLengths (yearOfDayNumber n.toNat))
    (n.toNat - daysBeforeYear (yearOfDayNumber n.toNat)) = found at h hmonth hsum
  obtain ⟨hy, hm, hd⟩ := of_ofParts? h
  have hindex : d.month - 1 = i := by omega
  rw [dayNumber_eq, hindex, hy, hd]
  omega

/-- **The date of a day number** is the one that has it. -/
theorem ofDayNumber?_eq_some_iff {n : Int} {d : Date} :
    ofDayNumber? n = some d ↔ (d.dayNumber : Int) = n := by
  constructor
  · exact dayNumber_of_ofDayNumber?
  · rintro rfl
    exact d.ofDayNumber?_dayNumber

/-- Different dates have different numbers. -/
lemma dayNumber_injective : Function.Injective dayNumber := by
  intro d e h
  have hd := d.ofDayNumber?_dayNumber
  rw [h, e.ofDayNumber?_dayNumber] at hd
  exact (Option.some.inj hd).symm

/-! ### Day after day -/

/-- The next day: in the same month, or else the first of the next month, or else the first of
January of the next year. There is none after the last of December of year 9999. -/
def next? (d : Date) : Option Date :=
  (ofParts? d.year d.month (d.day + 1)).or
    ((ofParts? d.year (d.month + 1) 1).or (ofParts? (d.year + 1) 1 1))

/-- The date a number of days after the first of January of year 1, counted day by day. -/
def afterDays? : Nat → Option Date
  | 0 => ofParts? 1 1 1
  | days + 1 => (afterDays? days).bind next?

/-- There is no date of given parts when the day is none of the month. -/
lemma ofParts?_of_day {year month day : Nat} (h : daysInMonth year month < day) :
    ofParts? year month day = none :=
  dif_neg fun hmem => by omega

/-- The last day of a month that is not the last of the year is followed by the first of the next
month. -/
lemma totalDays_of_last {d : Date} (hday : d.day = daysInMonth d.year d.month) :
    totalDays ((monthLengths d.year).take (d.month - 1)) + d.day =
      totalDays ((monthLengths d.year).take d.month) := by
  have hmonth := d.month_mem.1
  have hindex : d.month - 1 + 1 = d.month := by omega
  rw [← hindex, totalDays_take_succ, hindex, hday, daysInMonth]

/-- **The number of the next day** is one more; only the last day of the calendar has none. -/
theorem next?_cases (d : Date) :
    (∃ e, d.next? = some e ∧ e.dayNumber = d.dayNumber + 1) ∨
      (d.next? = none ∧ d.dayNumber = lastDayNumber) := by
  have hyear := d.year_mem
  have hmonth := d.month_mem
  have hday := d.day_mem
  unfold next?
  by_cases hlast : d.day < daysInMonth d.year d.month
  · obtain ⟨e, he, hey, hem, hed⟩ :=
      @exists_ofParts? d.year d.month (d.day + 1) hyear hmonth (by omega)
    refine .inl ⟨e, by rw [he]; rfl, ?_⟩
    rw [dayNumber_eq, dayNumber_eq, hey, hem, hed]
    omega
  · have hend : d.day = daysInMonth d.year d.month := by omega
    have htotal := totalDays_of_last hend
    rw [ofParts?_of_day (by omega), Option.none_or]
    by_cases hdecember : d.month < 12
    · have hfirst := one_le_daysInMonth d.year (Nat.le_add_left 1 d.month) hdecember
      obtain ⟨e, he, hey, hem, hed⟩ :=
        @exists_ofParts? d.year (d.month + 1) 1 hyear (by omega) ⟨Nat.le_refl 1, hfirst⟩
      refine .inl ⟨e, by rw [he]; rfl, ?_⟩
      rw [dayNumber_eq, dayNumber_eq, hey, hem, hed, Nat.add_sub_cancel]
      omega
    · have htwelve : d.month = 12 := by omega
      have hwhole : (monthLengths d.year).take d.month = monthLengths d.year := by
        rw [htwelve]
        rfl
      have hover : ofParts? d.year (d.month + 1) 1 = none := dif_neg fun hmem => by omega
      have hnext := daysBeforeYear_succ hyear.1
      rw [hwhole] at htotal
      rw [hover, Option.none_or]
      by_cases hlater : d.year < 9999
      · have hfirst := one_le_daysInMonth (d.year + 1) (Nat.le_refl 1) (by decide)
        obtain ⟨e, he, hey, hem, hed⟩ :=
          @exists_ofParts? (d.year + 1) 1 1 (by omega) (by decide) ⟨Nat.le_refl 1, hfirst⟩
        refine .inl ⟨e, he, ?_⟩
        have hnone : totalDays ((monthLengths (d.year + 1)).take (1 - 1)) = 0 := rfl
        rw [dayNumber_eq, dayNumber_eq, hey, hem, hed, hnone]
        omega
      · have hyears : d.year = 9999 := by omega
        refine .inr ⟨dif_neg fun hmem => by omega, ?_⟩
        rw [dayNumber_eq, Nat.add_assoc, htotal, ← hnext, hyears]
        rfl

/-- **Day numbers count days**, from one for the first of January of year 1.

**Proof sketch.** Induction on the days: the next day has the next number, which only its date has,
and after the last day of the calendar there is neither a next day nor a date of the next number
(`next?_cases`). -/
theorem afterDays?_eq (days : Nat) : afterDays? days = ofDayNumber? ((days : Int) + 1) := by
  induction days with
  | zero => rfl
  | succ days ih =>
    rw [afterDays?, ih]
    push_cast
    cases hdate : ofDayNumber? ((days : Int) + 1) with
    | none =>
      have hover := mt (isSome_ofDayNumber? _).2 (Option.not_isSome_iff_eq_none.2 hdate)
      refine (Option.not_isSome_iff_eq_none.1 (mt (isSome_ofDayNumber? _).1 ?_)).symm
      omega
    | some d =>
      have hnumber := dayNumber_of_ofDayNumber? hdate
      rw [Option.bind_some]
      rcases d.next?_cases with ⟨e, he, hnext⟩ | ⟨hnone, hlast⟩
      · rw [he]
        refine (ofDayNumber?_eq_some_iff.2 ?_).symm
        omega
      · rw [hnone]
        refine (Option.not_isSome_iff_eq_none.1 (mt (isSome_ofDayNumber? _).1 ?_)).symm
        omega

/-- The date after a number of days is the one whose number is one more. -/
theorem afterDays?_eq_some_iff {days : Nat} {d : Date} :
    afterDays? days = some d ↔ d.dayNumber = days + 1 := by
  rw [afterDays?_eq, ofDayNumber?_eq_some_iff]
  omega

end Date

/-! ### Seconds -/

namespace TimeOfDay

/-- The second of the day determines hour, minute and second. -/
lemma parts_of_secondOfDay {t u : TimeOfDay} (h : t.secondOfDay = u.secondOfDay) :
    t.hour = u.hour ∧ t.minute = u.minute ∧ t.second = u.second := by
  have := t.minute_lt
  have := t.second_lt
  have := u.minute_lt
  have := u.second_lt
  unfold secondOfDay at h
  omega

/-- A time that is made of parts has them. -/
lemma of_ofParts? {hour minute second microsecond : Nat} {t : TimeOfDay}
    (h : ofParts? hour minute second microsecond = some t) :
    t.hour = hour ∧ t.minute = minute ∧ t.second = second := by
  unfold ofParts? at h
  split at h
  · cases h
    exact ⟨rfl, rfl, rfl⟩
  · cases h

end TimeOfDay

namespace DateTime

variable {t u v : DateTime}

/-- The second that a date-time denotes, counted from the start of year 1 in UTC: its date comes a
number of days after the first one, its time of day counts in seconds, and its clock is ahead of UTC
by its offset, if it has one. -/
def Denotes (t : DateTime) (second : Int) : Prop :=
  ∃ days : Nat, Date.afterDays? days = some t.date ∧
    second = 86400 * days + t.time.secondOfDay - (t.offset.map Offset.seconds).getD 0

/-- What calendar and clock show in UTC at the second that a date-time denotes. -/
def ShownInUtc (t u : DateTime) : Prop :=
  u.offset = none ∧ ∃ second, t.Denotes second ∧ u.Denotes second

/-- The numbers that calendar and clock show, from the year to the second. -/
def fields (u : DateTime) : List Nat :=
  [u.date.year, u.date.month, u.date.day, u.time.hour, u.time.minute, u.time.second]

/-- **The second that a date-time denotes is unique**, and is computed from the number of its
date. -/
theorem denotes_iff {second : Int} : t.Denotes second ↔ t.utcSecond = second := by
  have hmem := t.date.dayNumber_mem
  unfold Denotes utcSecond
  constructor
  · rintro ⟨days, hdays, rfl⟩
    rw [Date.afterDays?_eq_some_iff.1 hdays]
    push_cast
    omega
  · rintro rfl
    refine ⟨t.date.dayNumber - 1, Date.afterDays?_eq_some_iff.2 (by omega), ?_⟩
    omega

/-- What is shown in UTC denotes the same second. -/
lemma shownInUtc_iff : t.ShownInUtc u ↔ u.offset = none ∧ u.utcSecond = t.utcSecond := by
  refine and_congr_right fun _ => ?_
  constructor
  · rintro ⟨second, ht, hu⟩
    rw [denotes_iff.1 ht, denotes_iff.1 hu]
  · intro h
    exact ⟨t.utcSecond, denotes_iff.2 rfl, denotes_iff.2 h⟩

/-- In UTC, the second is that of the date and the time of day. -/
lemma utcSecond_of_utc (h : u.offset = none) :
    u.utcSecond = ((u.date.dayNumber : Int) - 1) * 86400 + u.time.secondOfDay := by
  rw [utcSecond, h]
  exact Int.sub_zero _

/-- What is shown in UTC is determined by the second. -/
lemma fields_eq_of_utcSecond (hu : u.offset = none) (hv : v.offset = none)
    (h : u.utcSecond = v.utcSecond) : u.fields = v.fields := by
  have hutime := u.time.secondOfDay_lt
  have hvtime := v.time.secondOfDay_lt
  rw [utcSecond_of_utc hu, utcSecond_of_utc hv] at h
  have hdate : u.date = v.date := Date.dayNumber_injective (by omega)
  obtain ⟨hhour, hminute, hsecond⟩ :=
    @TimeOfDay.parts_of_secondOfDay u.time v.time (by omega)
  rw [fields, fields, hdate, hhour, hminute, hsecond]

/-- The numbers that are shown in UTC determine the second. -/
lemma utcSecond_eq_of_fields (hu : u.offset = none) (hv : v.offset = none)
    (h : u.fields = v.fields) : u.utcSecond = v.utcSecond := by
  simp only [fields, List.cons.injEq, and_true] at h
  obtain ⟨hyear, hmonth, hday, hhour, hminute, hsecond⟩ := h
  rw [utcSecond_of_utc hu, utcSecond_of_utc hv, Date.dayNumber_eq, Date.dayNumber_eq,
    TimeOfDay.secondOfDay, TimeOfDay.secondOfDay, hyear, hmonth, hday, hhour, hminute, hsecond]

/-- The date and time of day that are made from a second denote it. -/
lemma utcSecond_of_ofUtcSecond? {second : Int} {microsecond : Nat}
    (h : ofUtcSecond? second microsecond = some u) :
    u.offset = none ∧ u.utcSecond = second := by
  obtain ⟨date, hdate, h⟩ := Option.bind_eq_some_iff.1 h
  obtain ⟨time, htime, rfl⟩ := Option.map_eq_some_iff.1 h
  obtain ⟨hhour, hminute, hsecond⟩ := TimeOfDay.of_ofParts? htime
  have hnumber := Date.dayNumber_of_ofDayNumber? hdate
  refine ⟨rfl, ?_⟩
  rw [utcSecond_of_utc rfl]
  dsimp only
  rw [hnumber, TimeOfDay.secondOfDay, hhour, hminute, hsecond]
  omega

/-- **What a date-time is converted to** is what is shown in UTC. -/
theorem shownInUtc_of_utc? (h : t.utc? = some u) : t.ShownInUtc u := by
  rw [shownInUtc_iff]
  unfold utc? at h
  split at h
  · rename_i hnone
    cases h
    exact ⟨hnone, rfl⟩
  · exact utcSecond_of_ofUtcSecond? h

/-- **The range of the calendar in UTC**: something is shown there exactly when the second lies in
the years 1 to 9999. -/
theorem exists_shownInUtc_iff : (∃ u, t.ShownInUtc u) ↔ t.InCalendar := by
  constructor
  · rintro ⟨u, hu⟩
    obtain ⟨hutc, hsecond⟩ := shownInUtc_iff.1 hu
    have hmem := u.date.dayNumber_mem
    have htime := u.time.secondOfDay_lt
    rw [utcSecond_of_utc hutc] at hsecond
    unfold Date.lastDayNumber at hmem
    unfold InCalendar
    omega
  · intro h
    obtain ⟨u, hu⟩ := Option.isSome_iff_exists.1 (t.isSome_utc?_iff.2 h)
    exact ⟨u, shownInUtc_of_utc? hu⟩

end DateTime

end TableClient
