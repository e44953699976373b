import Mathlib.Data.List.Induction
import Mathlib.Data.List.TakeWhile
import TableClient.Decimal.Reading
import TableClient.Proofs.Decimal.Order
import TableClient.Proofs.Text.Reading

set_option relaxedAutoImplicit false
set_option autoImplicit false

/-!
# Canonical numerals

Of all texts that denote an integer one is canonical: it has no zeros in front of other digits, no
sign but a minus sign, and none for zero. It is the one that is written, and the only one of its
form that denotes the integer. So an integer is read back exactly from its numeral, and different
integers have different numerals.

## Main definitions

* `TableClient.Numeral.Unpadded` — digits without zeros in front.
* `TableClient.Numeral.Canonical` — canonical numerals of integers.

## Main results

* `TableClient.Numeral.Unpadded.eq_ofNat` — digits without zeros in front are determined by the
  number that they denote.
* `TableClient.Numeral.canonical_ofInt` — the numeral that is written is canonical.
* `TableClient.Numeral.canonical_and_reads_iff` — it is the only canonical one that is read as the
  integer.
-/

namespace TableClient.Numeral

/-! ### Digits -/

/-- A digit is that of its value. -/
lemma digitChar_of_digitValue? {c : Char} {d : Nat} (h : digitValue? c = some d) :
    d < 10 ∧ digitChar d = c := by
  unfold digitValue? at h
  split at h
  · rename_i hrange
    have hlow : 48 ≤ c.toNat := hrange.1
    have hhigh : c.toNat ≤ 57 := hrange.2
    obtain rfl := Option.some.inj h
    refine ⟨by omega, ?_⟩
    rw [digitChar, Nat.add_sub_cancel' hlow, Char.ofNat_toNat]
  · cases h

/-- A digit is that of a number below ten. -/
lemma exists_digitChar {c : Char} (h : Decimal.isDigit c = true) :
    ∃ d < 10, digitChar d = c := by
  obtain ⟨d, hd⟩ := Option.isSome_iff_exists.1 h
  exact ⟨d, digitChar_of_digitValue? hd⟩

/-- The numeral of zero. -/
lemma ofNat_zero : ofNat 0 = ['0'] := ofNat_of_lt (by decide)

/-- A numeral begins with a digit, which is a zero for the number zero only. -/
lemma exists_ofNat_cons (n : Nat) :
    ∃ c cs, ofNat n = c :: cs ∧ Decimal.isDigit c = true ∧ (c = '0' → n = 0) := by
  induction n using Nat.strongRecOn with
  | ind n ih =>
    by_cases hn : n < 10
    · refine ⟨_, [], ofNat_of_lt hn, ?_, ?_⟩
      · rw [Decimal.isDigit, digitValue?_digitChar hn]
        rfl
      · exact (digitChar_inj hn (by decide : 0 < 10)).1
    · obtain ⟨c, cs, hcs, hdigit, hzero⟩ := ih (n / 10) (by omega)
      refine ⟨c, cs ++ [digitChar (n % 10)], ?_, hdigit, fun h => ?_⟩
      · rw [ofNat_of_le (by omega), hcs, List.cons_append]
      · have := hzero h
        omega

/-! ### Digits without zeros in front -/

/-- Some digits, with no zero in front of others. -/
structure Unpadded (cs : List Char) : Prop where
  ne_nil : cs ≠ []
  digits : ∀ c ∈ cs, Decimal.isDigit c = true
  zero_alone : cs.head? = some '0' → cs = ['0']

/-- The numeral of a natural number has no zeros in front. -/
lemma unpadded_ofNat (n : Nat) : Unpadded (ofNat n) where
  ne_nil := ofNat_ne_nil n
  digits := isSome_of_mem_ofNat n
  zero_alone := by
    obtain ⟨c, cs, hcs, -, hzero⟩ := exists_ofNat_cons n
    intro hhead
    rw [hcs] at hhead
    obtain rfl := hzero (Option.some.inj hhead)
    exact ofNat_zero

/-- Digits without zeros in front stay so without the last of them. -/
lemma Unpadded.init {cs : List Char} {c : Char} (h : Unpadded (cs ++ [c])) (hne : cs ≠ []) :
    Unpadded cs ∧ cs ≠ ['0'] := by
  obtain ⟨first, rest, rfl⟩ := List.exists_cons_of_ne_nil hne
  have hfirst : first ≠ '0' := by
    rintro rfl
    have halone := congrArg List.length (h.zero_alone rfl)
    simp at halone
  refine ⟨⟨hne, fun d hd => h.digits d (List.mem_append_left _ hd), fun hhead => ?_⟩, fun heq => ?_⟩
  · exact absurd (Option.some.inj hhead) hfirst
  · exact hfirst (List.cons.inj heq).1

/-- **Digits without zeros in front are determined by the number that they denote.**

**Proof sketch.** By induction from the last digit: those before it have no zeros in front either,
and do not denote zero, so that the last digit is that of the number behind the numeral of its
tenth. -/
theorem Unpadded.eq_ofNat {cs : List Char} (h : Unpadded cs) {n : Nat}
    (hn : toNatFrom? 0 cs = some n) : cs = ofNat n := by
  induction cs using List.reverseRecOn generalizing n with
  | nil => exact absurd rfl h.ne_nil
  | append_singleton cs c ih =>
    rw [toNatFrom?_append] at hn
    obtain ⟨m, hm, hlast⟩ := Option.bind_eq_some_iff.1 hn
    obtain ⟨d, hvalue, hsum⟩ := Option.bind_eq_some_iff.1 hlast
    obtain ⟨hd, rfl⟩ := digitChar_of_digitValue? hvalue
    obtain rfl : m * 10 + d = n := Option.some.inj hsum
    by_cases hne : cs = []
    · subst hne
      obtain rfl : 0 = m := Option.some.inj hm
      rw [ofNat_of_lt (by omega), Nat.zero_mul, Nat.zero_add]
      rfl
    · obtain ⟨hinit, hzero⟩ := h.init hne
      have hcs : cs = ofNat m := ih hinit hm
      have hpos : m ≠ 0 := by
        rintro rfl
        exact hzero (hcs.trans ofNat_zero)
      rw [ofNat_of_le (by omega), show (m * 10 + d) / 10 = m by omega,
        show (m * 10 + d) % 10 = d by omega, hcs]

/-! ### Numerals of integers -/

/-- The canonical numerals: digits without zeros in front, behind a minus sign or none; zero has no
sign. -/
inductive Canonical : List Char → Prop where
  | unsigned {cs : List Char} : Unpadded cs → Canonical cs
  | minus {cs : List Char} : Unpadded cs → cs ≠ ['0'] → Canonical ('-' :: cs)

/-- **The numeral of an integer is canonical.** -/
theorem canonical_ofInt (n : Int) : Canonical (ofInt n) := by
  cases n with
  | ofNat n => exact .unsigned (unpadded_ofNat n)
  | negSucc n =>
    refine .minus (unpadded_ofNat (n + 1)) fun h => ?_
    exact absurd (ofNat_injective (h.trans ofNat_zero.symm)) (Nat.succ_ne_zero n)

end TableClient.Numeral

namespace TableClient.Decimal

/-! ### Reading integers -/

/-- A digit or a minus sign. -/
def IsPlainMark (c : Char) : Prop := isDigit c = true ∨ c = '-'

instance : DecidablePred IsPlainMark := fun c =>
  inferInstanceAs (Decidable (isDigit c = true ∨ c = '-'))

/-- Digits and minus signs are what the lenient reader keeps as it is. -/
lemma IsPlainMark.kept {c : Char} (h : IsPlainMark c) :
    isMargin c = false ∧ asciiDigit c = c ∧ c ≠ '_' := by
  rcases h with h | rfl
  · obtain ⟨d, hd, rfl⟩ := Numeral.exists_digitChar h
    have hall : ∀ d < 10, isMargin (Numeral.digitChar d) = false ∧
        asciiDigit (Numeral.digitChar d) = Numeral.digitChar d ∧ Numeral.digitChar d ≠ '_' := by
      decide
    exact hall d hd
  · decide

/-- Numerals of integers consist of digits and minus signs. -/
lemma isPlainMark_of_mem_ofInt (n : Int) : ∀ c ∈ Numeral.ofInt n, IsPlainMark c := by
  have hdigits (n : Nat) : ∀ c ∈ Numeral.ofNat n, IsPlainMark c := fun c hc =>
    .inl (Numeral.isSome_of_mem_ofNat n c hc)
  cases n with
  | ofNat n => exact hdigits n
  | negSucc n => exact List.forall_mem_cons.2 ⟨.inr rfl, hdigits (n + 1)⟩

/-- Nothing is cut off either end of a list that has no items of a class. -/
lemma trim_eq_self {α : Type} {p : α → Bool} {items : List α} (h : ∀ x ∈ items, p x = false) :
    Text.trim p items = items := by
  have hkept {items : List α} (h : ∀ x ∈ items, p x = false) : items.dropWhile p = items :=
    List.dropWhile_eq_self_iff.2 fun hl => by simp [h _ (List.getElem_mem hl)]
  rw [Text.trim, hkept h, Text.trimEnd, hkept fun x hx => h x (List.mem_reverse.1 hx),
    List.reverse_reverse]

/-- A list without underscores is kept as it is. -/
lemma dropUnderscores?_of_notMem {cs : List Char} (h : '_' ∉ cs) (before : Bool) :
    dropUnderscores? before cs = some cs := by
  induction cs generalizing before with
  | nil => rfl
  | cons c cs ih =>
    obtain ⟨hc, hcs⟩ := not_or.1 (mt List.mem_cons.2 h)
    have hc' : c ≠ '_' := Ne.symm hc
    rw [dropUnderscores?, if_neg hc', ih hcs]
    · rfl
    · rintro _ _ rfl
      exact absurd rfl hc'

/-- Digits and minus signs are in plain form. -/
lemma normalized?_ofChars {cs : List Char} (h : ∀ c ∈ cs, IsPlainMark c) :
    normalized? (.ofChars cs) = some cs := by
  have hmap : cs.map asciiDigit = cs :=
    (List.map_congr_left fun c hc => (h c hc).kept.2.1).trans (List.map_id cs)
  rw [normalized?, Text.chars?_ofChars, Option.bind_some, trim_eq_self fun c hc => (h c hc).kept.1,
    hmap]
  exact dropUnderscores?_of_notMem (fun hmem => (h '_' hmem).kept.2.2 rfl) false

/-- What all digits denote is their value. -/
lemma toNatFrom?_eq_value {cs : List Char} (h : ∀ c ∈ cs, isDigit c = true) :
    Numeral.toNatFrom? 0 cs = some (value cs) := by
  have hsome (acc : Nat) : (Numeral.toNatFrom? acc cs).isSome = true := by
    induction cs generalizing acc with
    | nil => rfl
    | cons c cs ih =>
      obtain ⟨hc, hcs⟩ := List.forall_mem_cons.1 h
      obtain ⟨d, hd⟩ := Option.isSome_iff_exists.1 hc
      rw [Numeral.toNatFrom?, hd, Option.bind_some]
      exact ih hcs _
  obtain ⟨n, hn⟩ := Option.isSome_iff_exists.1 (hsome 0)
  rw [value, hn]
  rfl

/-- The value of the digits of a numeral is its number. -/
lemma value_ofNat (n : Nat) : value (Numeral.ofNat n) = n := by
  rw [value, Numeral.toNatFrom?_ofNat]
  rfl

section Digits

variable {cs : List Char} (h : Numeral.Unpadded cs)

include h in
/-- Digits without a sign are read as their value, if they are not too many. -/
lemma lenientInt?_unsigned :
    lenientInt? (.ofChars cs) =
      if cs.length ≤ maxIntDigits then some (value cs : Int) else none := by
  have hsign : splitSign cs = (false, cs) := by
    obtain ⟨c, rest, rfl⟩ := List.exists_cons_of_ne_nil h.ne_nil
    have hc : isDigit c = true := h.digits c List.mem_cons_self
    unfold splitSign
    split
    · rename_i heq
      obtain rfl := (List.cons.inj heq).1
      cases hc
    · rename_i heq
      obtain rfl := (List.cons.inj heq).1
      cases hc
    · rfl
  rw [lenientInt?, normalized?_ofChars fun c hc => .inl (h.digits c hc), Option.bind_some, hsign]
  simp [h.ne_nil, List.all_eq_true.2 h.digits]

include h in
/-- Digits behind a minus sign are read as the negative of their value, if they are not too many. -/
lemma lenientInt?_minus :
    lenientInt? (.ofChars ('-' :: cs)) =
      if cs.length ≤ maxIntDigits then some (-(value cs : Int)) else none := by
  have hmarks : ∀ c ∈ '-' :: cs, IsPlainMark c :=
    List.forall_mem_cons.2 ⟨.inr rfl, fun c hc => .inl (h.digits c hc)⟩
  rw [lenientInt?, normalized?_ofChars hmarks, Option.bind_some, splitSign]
  simp [h.ne_nil, List.all_eq_true.2 h.digits]

end Digits

/-- **An integer is read back from its numeral**, unless that has too many digits. -/
theorem lenientInt?_ofInt (n : Int) :
    lenientInt? (.ofChars (Numeral.ofInt n)) =
      if (Numeral.ofNat n.natAbs).length ≤ maxIntDigits then some n else none := by
  cases n with
  | ofNat n =>
    have hread := lenientInt?_unsigned (Numeral.unpadded_ofNat n)
    rw [value_ofNat] at hread
    exact hread
  | negSucc n =>
    have hread := lenientInt?_minus (Numeral.unpadded_ofNat (n + 1))
    rw [value_ofNat] at hread
    exact hread

end TableClient.Decimal

namespace TableClient.Numeral

/-- A canonical numeral that is read as an integer is the one that is written. -/
lemma Canonical.eq_ofInt {cs : List Char} (h : Canonical cs) {n : Int}
    (hn : Decimal.lenientInt? (.ofChars cs) = some n) : cs = ofInt n := by
  cases h with
  | unsigned h =>
    rw [Decimal.lenientInt?_unsigned h] at hn
    split at hn
    · obtain rfl := Option.some.inj hn
      exact h.eq_ofNat (Decimal.toNatFrom?_eq_value h.digits)
    · cases hn
  | @minus cs h hzero =>
    have hcs : cs = ofNat (Decimal.value cs) := h.eq_ofNat (Decimal.toNatFrom?_eq_value h.digits)
    rw [Decimal.lenientInt?_minus h] at hn
    split at hn
    · obtain rfl := Option.some.inj hn
      cases hvalue : Decimal.value cs with
      | zero =>
        rw [hvalue] at hcs
        exact absurd (hcs.trans ofNat_zero) hzero
      | succ k =>
        rw [hvalue] at hcs
        rw [hcs]
        rfl
    · cases hn

/-- **The numeral that is written is the only canonical one that is read as the integer**, if it
does not have too many digits to be read. -/
theorem canonical_and_reads_iff {n : Int} (hn : (ofNat n.natAbs).length ≤ Decimal.maxIntDigits)
    (cs : List Char) :
    Canonical cs ∧ Decimal.lenientInt? (.ofChars cs) = some n ↔ cs = ofInt n := by
  constructor
  · rintro ⟨hcanonical, hread⟩
    exact hcanonical.eq_ofInt hread
  · rintro rfl
    rw [Decimal.lenientInt?_ofInt, if_pos hn]
    exact ⟨canonical_ofInt n, rfl⟩

end TableClient.Numeral
