import TableClient.Proofs.Calendar.Days
import TableClient.Proofs.Decimal.Numeral
import TableClient.Proofs.Query.Operand

set_option relaxedAutoImplicit false
set_option autoImplicit false

/-!
# Date-times in tokens

A date-time is written as what calendar and clock show in UTC at the second that it denotes, so that
date-times with different offsets have the same text exactly when they denote the same second. It
has no text when nothing is shown in the years 1 to 9999.

## Main definitions

* `TableClient.Query.clockText` — what calendar and clock show, as text.

## Main results

* `TableClient.Query.numbers?_clockText` — the numbers can be read off the text again.
* `TableClient.Query.dateTimeText?_eq_some_iff` — which date-times have a text, and which one.
* `TableClient.Query.dateTimeText?_denotes` — date-times are written as the seconds that they
  denote.
-/

namespace TableClient.Query

variable {t t' u v : DateTime} {text : String}

/-- What calendar and clock show, as text. -/
def clockText (u : DateTime) : String :=
  Numeral.natText u.date.year ++ u.date.monthDayText ++ " " ++ u.time.text

/-- The characters of what calendar and clock show. -/
lemma toList_clockText (u : DateTime) :
    (clockText u).toList =
      Numeral.ofNat u.date.year ++ '-' :: (Numeral.padded 2 u.date.month ++
        '-' :: (Numeral.padded 2 u.date.day ++ ' ' :: (Numeral.padded 2 u.time.hour ++
          ':' :: (Numeral.padded 2 u.time.minute ++ ':' :: Numeral.padded 2 u.time.second)))) := by
  simp [clockText, Numeral.natText, Date.monthDayText, TimeOfDay.text]

/-- **The numbers can be read off the text again.** -/
theorem numbers?_clockText (u : DateTime) :
    Numeral.numbers? (clockText u).toList = some u.fields := by
  have hdash : Numeral.separates '-' = true := rfl
  have hblank : Numeral.separates ' ' = true := rfl
  have hcolon : Numeral.separates ':' = true := rfl
  have hpadded (n : Nat) {separator : Char} (h : Numeral.separates separator = true)
      (rest : List Char) : Numeral.numbers? (Numeral.padded 2 n ++ separator :: rest) =
        (Numeral.numbers? rest).map (n :: ·) :=
    Numeral.numbers?_append_cons (Numeral.isSome_of_mem_padded 2 n) (Numeral.toNat?_padded 2 n) h
      rest
  rw [toList_clockText,
    Numeral.numbers?_append_cons (Numeral.isSome_of_mem_ofNat _) (Numeral.toNat?_ofNat _) hdash,
    hpadded _ hdash, hpadded _ hblank, hpadded _ hcolon, hpadded _ hcolon,
    Numeral.numbers?_of_digits (Numeral.isSome_of_mem_padded 2 _) (Numeral.toNat?_padded 2 _)]
  rfl

/-- What is shown in UTC at one second has one text. -/
lemma clockText_eq_of_fields (h : u.fields = v.fields) : clockText u = clockText v := by
  simp only [DateTime.fields, List.cons.injEq, and_true] at h
  obtain ⟨hyear, hmonth, hday, hhour, hminute, hsecond⟩ := h
  rw [clockText, clockText, Date.monthDayText, Date.monthDayText, TimeOfDay.text, TimeOfDay.text,
    hyear, hmonth, hday, hhour, hminute, hsecond]

/-- **Which date-times have a text**: those for which something is shown in UTC, and it is the text
of what is shown. -/
theorem dateTimeText?_eq_some_iff :
    dateTimeText? t = some text ↔ ∃ u, t.ShownInUtc u ∧ clockText u = text := by
  constructor
  · intro h
    obtain ⟨u, hu, rfl⟩ := Option.map_eq_some_iff.1 h
    exact ⟨u, DateTime.shownInUtc_of_utc? hu, rfl⟩
  · rintro ⟨u, hu, rfl⟩
    obtain ⟨v, hv⟩ := Option.isSome_iff_exists.1
      (t.isSome_utc?_iff.2 (DateTime.exists_shownInUtc_iff.1 ⟨u, hu⟩))
    obtain ⟨huoff, husecond⟩ := DateTime.shownInUtc_iff.1 hu
    obtain ⟨hvoff, hvsecond⟩ := DateTime.shownInUtc_iff.1 (DateTime.shownInUtc_of_utc? hv)
    have hfields := DateTime.fields_eq_of_utcSecond hvoff huoff (hvsecond.trans husecond.symm)
    show t.utc?.map clockText = _
    rw [hv, Option.map_some, clockText_eq_of_fields hfields]

/-- A date-time has no text when nothing is shown in UTC. -/
lemma dateTimeText?_eq_none_iff : dateTimeText? t = none ↔ ¬ ∃ u, t.ShownInUtc u := by
  rw [DateTime.exists_shownInUtc_iff, ← isSome_dateTimeText?_iff, Option.not_isSome_iff_eq_none]

/-- A date-time without a text is reported as one outside the calendar. -/
lemma literal_dateTime (t : DateTime) :
    (Scalar.dateTime t).literal =
      match dateTimeText? t with
      | some text => .ok text
      | none => .error .instantOutOfRange := rfl

/-- Date-times have the same text when they denote the same second. -/
lemma dateTimeText?_eq_iff (t t' : DateTime) :
    (∃ text, dateTimeText? t = some text ∧ dateTimeText? t' = some text) ↔
      (∃ u, t.ShownInUtc u) ∧ ∃ second, t.Denotes second ∧ t'.Denotes second := by
  constructor
  · rintro ⟨text, ht, ht'⟩
    obtain ⟨u, hu, rfl⟩ := dateTimeText?_eq_some_iff.1 ht
    obtain ⟨v, hv, htext⟩ := dateTimeText?_eq_some_iff.1 ht'
    obtain ⟨huoff, husecond⟩ := DateTime.shownInUtc_iff.1 hu
    obtain ⟨hvoff, hvsecond⟩ := DateTime.shownInUtc_iff.1 hv
    have hfields : some v.fields = some u.fields := by
      rw [← numbers?_clockText v, htext, numbers?_clockText u]
    have hsecond := DateTime.utcSecond_eq_of_fields hvoff huoff (Option.some.inj hfields)
    refine ⟨⟨u, hu⟩, t.utcSecond, DateTime.denotes_iff.2 rfl, DateTime.denotes_iff.2 ?_⟩
    rw [← hvsecond, hsecond, husecond]
  · rintro ⟨⟨u, hu⟩, second, ht, ht'⟩
    obtain ⟨huoff, second', htu, hu'⟩ := id hu
    have hsame : second = second' :=
      (DateTime.denotes_iff.1 ht).symm.trans (DateTime.denotes_iff.1 htu)
    subst hsame
    exact ⟨clockText u, dateTimeText?_eq_some_iff.2 ⟨u, hu, rfl⟩,
      dateTimeText?_eq_some_iff.2 ⟨u, ⟨huoff, second, ht', hu'⟩, rfl⟩⟩

/-- **Date-times are written as the seconds that they denote.** The numbers in the text of a
date-time are what calendar and clock show in UTC at its second, from the year to the second, where
the calendar goes on day by day from the first of January of year 1. Two date-times have the same
text exactly when they denote the same second and something is shown at it. When nothing is shown in
the years 1 to 9999, and only then, there is no text, which is reported as an overflow.

**Proof sketch.** Converting to UTC gives what is shown at the second
(`DateTime.shownInUtc_of_utc?`), since day numbers count days (`Date.afterDays?_eq`). The numbers
can be read off the text (`numbers?_clockText`), and they determine the second and are determined by
it. -/
theorem dateTimeText?_denotes (t : DateTime) :
    (∀ u, t.ShownInUtc u →
      ∃ text, dateTimeText? t = some text ∧ Numeral.numbers? text.toList = some u.fields) ∧
    (∀ t', (∃ text, dateTimeText? t = some text ∧ dateTimeText? t' = some text) ↔
      (∃ u, t.ShownInUtc u) ∧ ∃ second, t.Denotes second ∧ t'.Denotes second) ∧
    (dateTimeText? t = none ↔ ¬ ∃ u, t.ShownInUtc u) ∧
    ((Scalar.dateTime t).literal.mapError Fault.className = .error "OverflowError" ↔
      ¬ ∃ u, t.ShownInUtc u) := by
  refine ⟨fun u hu => ?_, dateTimeText?_eq_iff t, dateTimeText?_eq_none_iff, ?_⟩
  · exact ⟨clockText u, dateTimeText?_eq_some_iff.2 ⟨u, hu, rfl⟩, numbers?_clockText u⟩
  · rw [← dateTimeText?_eq_none_iff, literal_dateTime]
    cases dateTimeText? t with
    | none => exact iff_of_true rfl rfl
    | some text => exact iff_of_false (fun h => nomatch h) (fun h => nomatch h)

/-- A clock that is one second behind UTC shows the last second of a year, which has ended in
UTC. -/
theorem dateTimeText?_denotes_new_year :
    let t : DateTime := ⟨⟨2023, 12, 31, by decide, by decide, by decide⟩,
      ⟨23, 59, 59, 999999, by decide, by decide, by decide, by decide⟩, some ⟨-1, by decide⟩⟩
    let u : DateTime := ⟨⟨2024, 1, 1, by decide, by decide, by decide⟩,
      ⟨0, 0, 0, 0, by decide, by decide, by decide, by decide⟩, none⟩
    t.ShownInUtc u ∧
      ∃ text, dateTimeText? t = some text ∧
        Numeral.numbers? text.toList = some [2024, 1, 1, 0, 0, 0] := by
  intro t u
  have hu : t.ShownInUtc u := DateTime.shownInUtc_iff.2 ⟨rfl, by decide⟩
  exact ⟨hu, (dateTimeText?_denotes t).1 u hu⟩

end TableClient.Query
