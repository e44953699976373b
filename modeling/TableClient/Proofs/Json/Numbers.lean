import TableClient.Json.Reader
import TableClient.Json.Writer
import TableClient.Proofs.Binary64.Shortest

set_option relaxedAutoImplicit false
set_option autoImplicit false

/-!
# Numbers that are read back

An integer is read back from its numeral, and a floating-point number from its text, whether that is
positional, scientific or the name of a number that is not finite. Behind a number stands a comma, a
closing bracket or brace, or nothing, so that the reader goes no further than its text.

## Main definitions

* `TableClient.Json.Ends` — what follows a value in JSON text.
* `TableClient.Json.IsSigned` — the texts that begin as a number does.

## Main results

* `TableClient.Json.readNumber_ofInt` — integers.
* `TableClient.Json.readMagnitude_positional` — digits with a point between or in front of them.
* `TableClient.Json.readNumber_finite` — finite numbers.
-/

namespace TableClient.Json

/-! ### What follows -/

/-- What follows the text of a value in a line: a comma, a bracket, a brace or nothing. -/
def Ends (rest : List Char) : Prop := ∀ c ∈ rest.head?, c = ',' ∨ c = ']' ∨ c = '}'

/-- A text that does not go on with a digit. -/
def Stops (rest : List Char) : Prop := ∀ c ∈ rest.head?, Decimal.isDigit c = false

/-- A comma and a closing bracket or brace end a value. -/
lemma ends_cons {c : Char} (h : c = ',' ∨ c = ']' ∨ c = '}') (rest : List Char) :
    Ends (c :: rest) := by
  intro d hd
  obtain rfl := Option.some.inj hd
  exact h

/-- A text that begins with a character that is no digit stops digits. -/
lemma stops_cons {c : Char} (h : Decimal.isDigit c = false) (rest : List Char) :
    Stops (c :: rest) := by
  intro d hd
  obtain rfl := Option.some.inj hd
  exact h

/-- What follows the text of a value is no digit. -/
lemma Ends.stops {rest : List Char} (h : Ends rest) : Stops rest := by
  intro c hc
  rcases h c hc with rfl | rfl | rfl <;> rfl

variable {digits rest : List Char}

/-- Digits are taken up to where they stop. -/
lemma Stops.span_digits (h : Stops rest) (hdigits : ∀ c ∈ digits, Decimal.isDigit c = true) :
    (digits ++ rest).takeWhile Decimal.isDigit = digits ∧
      (digits ++ rest).dropWhile Decimal.isDigit = rest := by
  rw [List.takeWhile_append_of_pos hdigits, List.dropWhile_append_of_pos hdigits]
  cases rest with
  | nil => simp
  | cons c rest => simp [h c rfl]

/-- No fraction and no exponent follow. -/
lemma Ends.no_fraction (h : Ends rest) :
    fractionDigits rest = ([], rest) ∧ exponentPart rest = (none, rest) := by
  cases rest with
  | nil => exact ⟨rfl, rfl⟩
  | cons c rest =>
    have hmark : ¬ (c = 'e' ∨ c = 'E') ∧ c ≠ '.' := by
      rcases h c rfl with rfl | rfl | rfl <;> decide
    refine ⟨?_, ?_⟩
    · rw [fractionDigits]
      exact fun _ _ heq => hmark.2 (List.cons.inj heq).1
    · rw [exponentPart]
      dsimp only
      rw [if_neg fun hboth => hmark.1 hboth.1]

/-! ### Integers -/

/-- The digits of an integer part are read. -/
lemma wholeDigits?_append (h : Numeral.Unpadded digits) (hrest : Stops rest) :
    wholeDigits? (digits ++ rest) = some (digits, rest) := by
  obtain ⟨hne, hdigits, hzero⟩ := h
  obtain ⟨htake, hdrop⟩ := hrest.span_digits hdigits
  cases digits with
  | nil => exact absurd rfl hne
  | cons c cs =>
    by_cases hc : c = '0'
    · subst hc
      obtain rfl : cs = [] := (List.cons.inj (hzero rfl)).2
      rfl
    · rw [List.cons_append] at htake hdrop ⊢
      rw [wholeDigits?, htake, hdrop]
      · rfl
      · exact fun _ heq => hc (List.cons.inj heq).1

/-- A number that begins with a digit has no sign. -/
lemma readNumber_of_digit {c : Char} (h : Decimal.isDigit c = true) (cs : List Char) :
    readNumber (c :: cs) = readMagnitude false (c :: cs) := by
  rw [readNumber]
  rintro _ heq
  obtain rfl := (List.cons.inj heq).1
  cases h

/-- The numeral of a number is read behind a sign. -/
lemma readMagnitude_ofNat (negative : Bool) {n : Nat}
    (h : (Numeral.ofNat n).length ≤ Decimal.maxIntDigits) (hrest : Ends rest) :
    readMagnitude negative (Numeral.ofNat n ++ rest) =
      .ok (.int (if negative then -(n : Int) else n), rest) := by
  obtain ⟨hfraction, hexponent⟩ := hrest.no_fraction
  unfold readMagnitude
  rw [wholeDigits?_append (Numeral.unpadded_ofNat n) hrest.stops]
  simp only [hfraction, hexponent, Decimal.value_ofNat, and_self, if_true, h]

/-- **An integer is read back from its numeral.** -/
theorem readNumber_ofInt {n : Int} (h : Value.hasNumeral n = true) (hrest : Ends rest) :
    readNumber (Numeral.ofInt n ++ rest) = .ok (.int n, rest) := by
  have hlength : (Numeral.ofNat n.natAbs).length ≤ Decimal.maxIntDigits := by
    simpa [Value.hasNumeral] using h
  cases n with
  | ofNat n =>
    obtain ⟨c, cs, hcs, hdigit, -⟩ := Numeral.exists_ofNat_cons n
    have hread := readMagnitude_ofNat false hlength hrest
    rw [Numeral.ofInt]
    rw [show (Int.ofNat n).natAbs = n from rfl, hcs, List.cons_append] at *
    rw [readNumber_of_digit hdigit, hread]
    rfl
  | negSucc n => exact readMagnitude_ofNat true hlength hrest

/-! ### Finite numbers -/

/-- The digits of a fraction are read. -/
lemma fractionDigits_append (hdigits : ∀ c ∈ digits, Decimal.isDigit c = true)
    (hne : digits ≠ []) (hrest : Stops rest) :
    fractionDigits ('.' :: (digits ++ rest)) = (digits, rest) := by
  obtain ⟨htake, hdrop⟩ := hrest.span_digits hdigits
  cases digits with
  | nil => exact absurd rfl hne
  | cons c cs =>
    rw [List.cons_append] at htake hdrop ⊢
    rw [fractionDigits, if_pos (hdigits c List.mem_cons_self), htake, hdrop]

/-- The digits of an exponent are read behind its sign. -/
lemma exponentPart_append (negative : Bool) (hdigits : ∀ c ∈ digits, Decimal.isDigit c = true)
    (hne : digits ≠ []) (hrest : Stops rest) :
    exponentPart ('e' :: (if negative then '-' else '+') :: (digits ++ rest)) =
      (some (if negative then -(Decimal.value digits : Int) else Decimal.value digits), rest) := by
  obtain ⟨htake, hdrop⟩ := hrest.span_digits hdigits
  cases negative <;> simp [exponentPart, Decimal.splitSign, htake, hdrop, hne]

/-- The digit zero is not padded. -/
lemma unpadded_zero : Numeral.Unpadded ['0'] :=
  ⟨List.cons_ne_nil _ _, List.forall_mem_singleton.2 rfl, fun _ => rfl⟩

/-- A number with a fraction or an exponent is read part by part. -/
lemma readMagnitude_of_parts (negative : Bool)
    {cs whole behindWhole fraction behindFraction : List Char} {exponent : Option Int}
    (hwhole : wholeDigits? cs = some (whole, behindWhole))
    (hfraction : fractionDigits behindWhole = (fraction, behindFraction))
    (hexponent : exponentPart behindFraction = (exponent, rest))
    (hfloat : ¬ (fraction = [] ∧ exponent = none)) :
    readMagnitude negative cs =
      .ok (.float (.ofDecimal negative (Decimal.value (whole ++ fraction))
        (exponent.getD 0 - fraction.length)), rest) := by
  unfold readMagnitude
  rw [hwhole]
  dsimp only
  rw [hfraction]
  dsimp only
  rw [hexponent]
  dsimp only
  rw [if_neg hfloat]

/-- Digits with a point between them are read. -/
lemma readMagnitude_point (negative : Bool) {whole fraction : List Char}
    (hwhole : Numeral.Unpadded whole) (hdigits : ∀ c ∈ fraction, Decimal.isDigit c = true)
    (hne : fraction ≠ []) (hrest : Ends rest) :
    readMagnitude negative (whole ++ '.' :: (fraction ++ rest)) =
      .ok (.float (.ofDecimal negative (Decimal.value (whole ++ fraction))
        (-(fraction.length : Int))), rest) := by
  have hread := readMagnitude_of_parts negative
    (wholeDigits?_append hwhole (stops_cons (c := '.') rfl (fraction ++ rest)))
    (fractionDigits_append hdigits hne hrest.stops) hrest.no_fraction.2 fun h => hne h.1
  rwa [Option.getD_none, Int.zero_sub] at hread

/-- A mark is no fraction. -/
lemma fractionDigits_mark (rest : List Char) :
    fractionDigits ('e' :: rest) = ([], 'e' :: rest) := by
  rw [fractionDigits]
  exact fun _ _ heq => absurd (List.cons.inj heq).1 (by decide)

/-- The value of a numeral that is filled up with zeros is its number. -/
lemma value_padded (width n : Nat) : Decimal.value (Numeral.padded width n) = n := by
  rw [Decimal.value, Numeral.padded, Numeral.toNatFrom?_zeros, Numeral.toNatFrom?_ofNat]
  rfl

/-- The exponent of a scientific form is read. -/
lemma exponentPart_padded (exponent : Int) (hrest : Ends rest) :
    exponentPart ('e' :: (if exponent < 0 then '-' else '+') ::
      (Numeral.padded 2 exponent.natAbs ++ rest)) = (some exponent, rest) := by
  have hne : Numeral.padded 2 exponent.natAbs ≠ [] :=
    List.append_ne_nil_of_right_ne_nil _ (Numeral.ofNat_ne_nil _)
  have hread := exponentPart_append (decide (exponent < 0))
    (Numeral.isSome_of_mem_padded 2 exponent.natAbs) hne hrest.stops
  rw [value_padded] at hread
  simp only [decide_eq_true_eq] at hread
  rw [hread]
  congr 2
  split <;> omega

/-- Digits in scientific form are read. -/
lemma readMagnitude_scientific (negative : Bool) {first : Char} {others : List Char}
    (hdigits : ∀ c ∈ first :: others, Decimal.isDigit c = true) (hfirst : first ≠ '0')
    (point : Int) (hrest : Ends rest) :
    readMagnitude negative (Finite.scientific (first :: others) point ++ rest) =
      .ok (.float (.ofDecimal negative (Decimal.value (first :: others))
        (point - (first :: others).length)), rest) := by
  obtain ⟨hdigit, hothers⟩ := List.forall_mem_cons.1 hdigits
  have hwhole : Numeral.Unpadded [first] :=
    ⟨List.cons_ne_nil _ _, List.forall_mem_singleton.2 hdigit, fun h =>
      absurd (Option.some.inj h) hfirst⟩
  have hexponent := exponentPart_padded (point - 1) hrest
  have hmark := fractionDigits_mark
    ((if point - 1 < 0 then '-' else '+') :: (Numeral.padded 2 (point - 1).natAbs ++ rest))
  have hstops := stops_cons (c := 'e') rfl
    ((if point - 1 < 0 then '-' else '+') :: (Numeral.padded 2 (point - 1).natAbs ++ rest))
  cases others with
  | nil =>
    have hread := readMagnitude_of_parts negative (wholeDigits?_append hwhole hstops) hmark
      hexponent fun h => nomatch h.2
    refine Eq.trans hread ?_
    rw [List.append_nil, Option.getD_some, List.length_nil, List.length_singleton,
      Int.natCast_zero, Int.sub_zero, Int.natCast_one]
  | cons second others =>
    have hread := readMagnitude_of_parts negative
      (wholeDigits?_append hwhole (stops_cons (c := '.') rfl _))
      (fractionDigits_append hothers (List.cons_ne_nil _ _) hstops) hexponent fun h => nomatch h.2
    have hchars : Finite.scientific (first :: second :: others) point ++ rest =
        [first] ++ '.' :: (second :: others ++ 'e' :: (if point - 1 < 0 then '-' else '+') ::
          (Numeral.padded 2 (point - 1).natAbs ++ rest)) := by
      simp [Finite.scientific]
    have hlast : point - 1 - ((second :: others).length : Int) =
        point - ((first :: second :: others).length : Int) := by
      simp only [List.length_cons]
      omega
    rw [hchars, hread, Option.getD_some, hlast]
    rfl

/-- The shortest digits of a number other than zero begin with no zero. -/
lemma exists_shortest_cons {x : Finite} (hx : x.mantissa ≠ 0) :
    ∃ first others, x.shortest.1 = first :: others ∧ first ≠ '0' ∧
      ∀ c ∈ first :: others, Decimal.isDigit c = true := by
  have hvalue := (Finite.magnitude_of_readsBack hx (Finite.readsBack_shortest hx)).1
  obtain ⟨first, others, hchars, -, hzero⟩ := Numeral.exists_ofNat_cons
    (Finite.dropZeros (x.searchFrom 17 1).1).1
  have hshortest : x.shortest.1 = first :: others := hchars
  refine ⟨first, others, hshortest, fun h => hvalue ?_, fun c hc => ?_⟩
  · exact (Decimal.value_ofNat _).trans (hzero h)
  · exact Numeral.isSome_of_mem_ofNat _ c (hchars ▸ hc)

/-- Zeros in front do not change the value of digits. -/
lemma value_zeros_append (count : Nat) (digits : List Char) :
    Decimal.value (List.replicate count '0' ++ digits) = Decimal.value digits := by
  rw [Decimal.value, Numeral.toNatFrom?_zeros, Decimal.value]

/-- Each zero behind digits multiplies their value by ten. -/
lemma value_append_zeros (hdigits : ∀ c ∈ digits, Decimal.isDigit c = true) (count : Nat) :
    Decimal.value (digits ++ List.replicate count '0') = Decimal.value digits * tenTo count := by
  induction count with
  | zero => simp
  | succ count ih =>
    have hall : ∀ c ∈ digits ++ List.replicate count '0', Decimal.isDigit c = true := by
      refine List.forall_mem_append.2 ⟨hdigits, fun c hc => ?_⟩
      rw [List.eq_of_mem_replicate hc]
      rfl
    have hlast : Decimal.value (digits ++ List.replicate count '0' ++ ['0']) =
        Decimal.value (digits ++ List.replicate count '0') * 10 := by
      rw [Decimal.value, Numeral.toNatFrom?_append, Decimal.toNatFrom?_eq_value hall]
      rfl
    rw [List.replicate_succ', ← List.append_assoc, hlast, ih, Finite.tenTo_succ, Nat.mul_assoc]

/-- Digits around a point that read back as a number are read as this number. -/
lemma readMagnitude_point_of_readsBack {x : Finite} (hx : x.mantissa ≠ 0)
    {whole fraction : List Char} (hwhole : Numeral.Unpadded whole)
    (hdigits : ∀ c ∈ fraction, Decimal.isDigit c = true) (hne : fraction ≠ [])
    (h : x.readsBack ⟨-fraction.length⟩ (Decimal.value (whole ++ fraction)) = true)
    (hrest : Ends rest) :
    readMagnitude x.negative (whole ++ '.' :: (fraction ++ rest)) =
      .ok (.float (.finite x), rest) := by
  rw [readMagnitude_point _ hwhole hdigits hne hrest, Finite.ofDecimal_eq_of_readsBack hx h]

/-- Zeros are digits. -/
lemma isDigit_of_mem_zeros (count : Nat) :
    ∀ c ∈ List.replicate count '0', Decimal.isDigit c = true := by
  intro c hc
  rw [List.eq_of_mem_replicate hc]
  rfl

/-- A positional text that ends before its point is filled up with zeros, and has one more zero
behind the point. -/
lemma positional_of_le {first : Char} {others : List Char} {places : Nat}
    (h : others.length ≤ places) :
    Finite.positional (first :: others) (places + 1 : Nat) =
      first :: (others ++ List.replicate (places - others.length) '0') ++ ['.', '0'] := by
  rw [Finite.positional, if_neg (by omega)]
  dsimp only
  rw [Int.toNat_natCast, List.take_succ_cons, List.drop_succ_cons, List.take_of_length_le h,
    List.drop_eq_nil_of_le h, List.length_cons, Nat.add_sub_add_right]
  simp

/-- A positional text that goes on behind its point is cut there. -/
lemma positional_of_lt {first : Char} {others : List Char} {places : Nat}
    (h : places < others.length) :
    Finite.positional (first :: others) (places + 1 : Nat) =
      first :: others.take places ++ '.' :: others.drop places := by
  rw [Finite.positional, if_neg (by omega)]
  dsimp only
  rw [Int.toNat_natCast, List.take_succ_cons, List.drop_succ_cons, List.length_cons,
    Nat.add_sub_add_right, Nat.sub_eq_zero_of_le h.le, List.replicate_zero, List.append_nil,
    if_neg (by simpa using h)]

/-- **The digits of a positional text are read as a decimal that reads back.** -/
theorem readMagnitude_positional {x : Finite} (hx : x.mantissa ≠ 0) {first : Char}
    {others : List Char} (hdigits : ∀ c ∈ first :: others, Decimal.isDigit c = true)
    (hfirst : first ≠ '0') (point : Int)
    (h : x.readsBack ⟨point - (first :: others).length⟩ (Decimal.value (first :: others)) = true)
    (hrest : Ends rest) :
    readMagnitude x.negative (Finite.positional (first :: others) point ++ rest) =
      .ok (.float (.finite x), rest) := by
  have hunpadded {digits : List Char} (hall : ∀ c ∈ digits, Decimal.isDigit c = true) :
      Numeral.Unpadded (first :: digits) :=
    ⟨List.cons_ne_nil _ _, List.forall_mem_cons.2 ⟨hdigits _ List.mem_cons_self, hall⟩, fun h =>
      absurd (Option.some.inj h) hfirst⟩
  have hothers := (List.forall_mem_cons.1 hdigits).2
  rcases le_or_gt point 0 with hpoint | hpoint
  · let zeros := List.replicate (-point).toNat '0'
    have hvalue : Decimal.value (['0'] ++ (zeros ++ first :: others)) =
        Decimal.value (first :: others) := by
      rw [← List.append_assoc, ← List.replicate_one, List.replicate_append_replicate,
        value_zeros_append]
    have hplaces : (-((zeros ++ first :: others).length : Int)) =
        point - (first :: others).length := by
      rw [List.length_append, List.length_replicate]
      omega
    rw [← hplaces, ← hvalue] at h
    rw [Finite.positional, if_pos hpoint]
    exact readMagnitude_point_of_readsBack hx unpadded_zero
      (List.forall_mem_append.2 ⟨isDigit_of_mem_zeros _, hdigits⟩)
      (List.append_ne_nil_of_right_ne_nil _ (List.cons_ne_nil _ _)) h hrest
  obtain ⟨places, rfl⟩ : ∃ n : Nat, point = (n + 1 : Nat) := ⟨(point - 1).toNat, by omega⟩
  rcases Nat.lt_or_ge places others.length with hlong | hshort
  · have hne : others.drop places ≠ [] := by
      rw [Ne, List.drop_eq_nil_iff]
      omega
    have hall : first :: others.take places ++ others.drop places = first :: others :=
      congrArg (first :: ·) (List.take_append_drop places others)
    have hlength : (-((others.drop places).length : Int)) =
        (places + 1 : Nat) - ((first :: others).length : Int) := by
      rw [List.length_drop, List.length_cons]
      omega
    rw [← hlength, ← hall] at h
    rw [positional_of_lt hlong, List.append_assoc]
    exact readMagnitude_point_of_readsBack hx
      (hunpadded fun c hc => hothers c (List.mem_of_mem_take hc))
      (fun c hc => hothers c (List.mem_of_mem_drop hc)) hne h hrest
  · obtain ⟨count, rfl⟩ := Nat.exists_eq_add_of_le hshort
    -- the digits with zeros behind them are the same decimal
    have hvalue : Decimal.value (first :: (others ++ List.replicate count '0') ++ ['0']) =
        Decimal.value (first :: others) * tenTo (count + 1) := by
      rw [← value_append_zeros hdigits, List.replicate_succ']
      simp
    have hpower : ((others.length + count + 1 : Nat) : Int) - (first :: others).length =
        -1 + (count + 1 : Nat) := by
      rw [List.length_cons]
      omega
    rw [hpower, ← Finite.readsBack_mul_tenTo, ← hvalue] at h
    rw [positional_of_le hshort, Nat.add_sub_cancel_left, List.append_assoc]
    exact readMagnitude_point_of_readsBack hx
      (hunpadded (List.forall_mem_append.2 ⟨hothers, isDigit_of_mem_zeros count⟩))
      (isDigit_of_mem_zeros 1) (List.cons_ne_nil _ _) h hrest

/-- The text of a magnitude is read as the number. -/
lemma readMagnitude_magnitudeText (x : Finite) (hrest : Ends rest) :
    readMagnitude x.negative (x.magnitudeText ++ rest) = .ok (.float (.finite x), rest) := by
  unfold Finite.magnitudeText
  split_ifs with hx
  · have hfraction : ∀ c ∈ ['0'], Decimal.isDigit c = true := List.forall_mem_singleton.2 rfl
    have hread :=
      readMagnitude_point x.negative unpadded_zero hfraction (List.cons_ne_nil _ _) hrest
    have hzero : Finite.zero x.negative = x := by
      obtain ⟨negative, mantissa, scale, hlt, hle, hnormal⟩ := x
      obtain rfl : mantissa = 0 := hx
      obtain rfl : scale = 0 := hnormal.resolve_right (by decide)
      rfl
    refine Eq.trans hread ?_
    rw [show Decimal.value (['0'] ++ ['0']) = 0 from rfl, Binary64.ofDecimal, if_pos rfl, hzero]
  · obtain ⟨first, others, hshortest, hfirst, hdigits⟩ := exists_shortest_cons hx
    have hback := Finite.readsBack_shortest hx
    dsimp only
    generalize x.shortest.2 = point at *
    rw [hshortest] at *
    split_ifs
    · exact readMagnitude_positional hx hdigits hfirst point hback hrest
    · rw [readMagnitude_scientific _ hdigits hfirst point hrest,
        Finite.ofDecimal_eq_of_readsBack hx hback]

/-! ### How numbers begin -/

/-- A text that begins with a digit, or with a minus sign and a digit. -/
def IsSigned (cs : List Char) : Prop :=
  ∃ c r, (cs = c :: r ∨ cs = '-' :: c :: r) ∧ Decimal.isDigit c = true

/-- What follows a text does not change how it begins. -/
lemma IsSigned.append {cs : List Char} (h : IsSigned cs) (rest : List Char) :
    IsSigned (cs ++ rest) := by
  obtain ⟨c, r, rfl | rfl, hdigit⟩ := h
  · exact ⟨c, r ++ rest, .inl rfl, hdigit⟩
  · exact ⟨c, r ++ rest, .inr rfl, hdigit⟩

/-- The first character of a text that begins as a number. -/
lemma IsSigned.exists_cons {cs : List Char} (h : IsSigned cs) :
    ∃ c r, cs = c :: r ∧ (c = '-' ∨ Decimal.isDigit c = true) := by
  obtain ⟨c, r, rfl | rfl, hdigit⟩ := h
  · exact ⟨c, r, rfl, .inr hdigit⟩
  · exact ⟨'-', c :: r, rfl, .inl rfl⟩

/-- No name begins as a number. -/
lemma IsSigned.readName?_eq_none {cs : List Char} (h : IsSigned cs) : readName? cs = none := by
  obtain ⟨c, r, hcs, hdigit⟩ := h
  unfold readName?
  split
  all_goals first
    | rfl
    | rcases hcs with heq | heq <;> cases heq <;> cases hdigit

/-- The numeral of an integer begins as a number. -/
lemma isSigned_ofInt (n : Int) : IsSigned (Numeral.ofInt n) := by
  cases n with
  | ofNat n =>
    obtain ⟨c, cs, hcs, hdigit, -⟩ := Numeral.exists_ofNat_cons n
    exact ⟨c, cs, .inl hcs, hdigit⟩
  | negSucc n =>
    obtain ⟨c, cs, hcs, hdigit, -⟩ := Numeral.exists_ofNat_cons (n + 1)
    exact ⟨c, cs, .inr (congrArg _ hcs), hdigit⟩

/-- The text of a magnitude begins with a digit. -/
lemma exists_magnitudeText_cons (x : Finite) :
    ∃ c r, x.magnitudeText = c :: r ∧ Decimal.isDigit c = true := by
  unfold Finite.magnitudeText
  split_ifs with hx
  · exact ⟨'0', ['.', '0'], rfl, rfl⟩
  · obtain ⟨first, others, hshortest, -, hdigits⟩ := exists_shortest_cons hx
    have hfirst := hdigits first List.mem_cons_self
    dsimp only
    rw [hshortest]
    split_ifs
    · unfold Finite.positional
      split_ifs with hpoint
      · exact ⟨'0', _, rfl, rfl⟩
      · obtain ⟨places, hplaces⟩ := Nat.exists_eq_add_one.2 (by omega : 0 < x.shortest.2.toNat)
        rw [hplaces]
        exact ⟨first, _, rfl, hfirst⟩
    · cases others with
      | nil => exact ⟨first, _, rfl, hfirst⟩
      | cons second others => exact ⟨first, _, rfl, hfirst⟩

/-- The text of a finite number is its magnitude behind its sign. -/
lemma toList_textWith_finite (spelling : Binary64.Spelling) (x : Finite) :
    ((Binary64.finite x).textWith spelling).toList =
      if x.negative then '-' :: x.magnitudeText else x.magnitudeText := by
  rw [Binary64.textWith, String.toList_ofList]

/-- The text of a finite number begins as a number. -/
lemma isSigned_finite (spelling : Binary64.Spelling) (x : Finite) :
    IsSigned ((Binary64.finite x).textWith spelling).toList := by
  obtain ⟨c, r, hcs, hdigit⟩ := exists_magnitudeText_cons x
  rw [toList_textWith_finite, hcs]
  split
  · exact ⟨c, r, .inr rfl, hdigit⟩
  · exact ⟨c, r, .inl rfl, hdigit⟩

/-- **A finite number is read back from its text.** -/
theorem readNumber_finite (spelling : Binary64.Spelling) (x : Finite) (hrest : Ends rest) :
    readNumber (((Binary64.finite x).textWith spelling).toList ++ rest) =
      .ok (.float (.finite x), rest) := by
  have hread := readMagnitude_magnitudeText x hrest
  rw [toList_textWith_finite]
  cases hnegative : x.negative with
  | true =>
    rw [hnegative] at hread
    exact hread
  | false =>
    obtain ⟨c, r, hcs, hdigit⟩ := exists_magnitudeText_cons x
    rw [hnegative] at hread
    rw [if_neg Bool.false_ne_true]
    rw [hcs, List.cons_append] at hread ⊢
    rw [readNumber_of_digit hdigit, hread]

end TableClient.Json
