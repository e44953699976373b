import Mathlib.Tactic.Ring
import TableClient.Binary64.Shortest
import TableClient.Proofs.Binary64.Integral
import TableClient.Proofs.Decimal.Canonical

set_option relaxedAutoImplicit false
set_option autoImplicit false

/-!
# The shortest digits read back

The digits that a number is written with denote a decimal that rounds to this very number. The
decimals that do so are those of an interval around the number, which reaches half of the way to
its neighbours; the ends belong to it when the mantissa is even. Seventeen digits are always enough:
the points of their grid are closer to each other than the ends of the interval.

## Main definitions

* `TableClient.Finite.Covers` — the quotients that lie in the interval around a number.

## Main results

* `TableClient.Finite.nearest_eq_of_covers` — a quotient in the interval rounds to the number.
* `TableClient.Finite.ofDecimal_eq_of_readsBack` — so does a decimal that reads back.
* `TableClient.Finite.readsBack_searchFrom` — the search ends at a decimal that reads back.
* `TableClient.Finite.ofDecimal_shortest` — the shortest digits denote the number.
-/

namespace TableClient

/-- A quotient that is nearer to a number than to any other one is rounded to it; halfway between
two it is rounded to the even one. -/
lemma roundDiv_eq {num den m : Nat} (hden : 0 < den) (hlow : 2 * (m * den) ≤ 2 * num + den)
    (hhigh : 2 * num ≤ 2 * (m * den) + den)
    (hodd : m % 2 = 1 → 2 * (m * den) < 2 * num + den ∧ 2 * num < 2 * (m * den) + den) :
    roundDiv num den = m := by
  have hdiv := Nat.div_add_mod num den
  have hmod := Nat.mod_lt num hden
  rw [Nat.mul_comm] at hdiv
  unfold roundDiv
  dsimp only
  generalize num / den = q at hdiv ⊢
  generalize num % den = r at hdiv hmod ⊢
  -- the quotient is the number or the one before it
  have hnear : q = m ∨ q + 1 = m := by
    rcases Nat.lt_trichotomy q m with hlt | heq | hgt
    · refine .inr (Nat.le_antisymm hlt (Nat.le_of_not_lt fun hfar => ?_))
      have hfar := Nat.mul_le_mul_right den (show q + 2 ≤ m from hfar)
      rw [Nat.add_mul] at hfar
      omega
    · exact .inl heq
    · have hfar := Nat.mul_le_mul_right den (show m + 1 ≤ q from hgt)
      rw [Nat.add_mul] at hfar
      omega
  rcases hnear with rfl | rfl
  · split_ifs with hless htie
    · rfl
    · rfl
    · have : q % 2 = 1 := by omega
      have := hodd this
      omega
  · rw [Nat.add_mul] at hlow hhigh hodd
    split_ifs with hless htie
    · omega
    · have := hodd (by omega)
      omega
    · rfl

namespace Finite

/-! ### The interval around a number -/

/-- A quotient of quarter units lies in the interval of those that round to a magnitude. -/
structure Covers (x : Finite) (num den : Nat) : Prop where
  low : (x.quarters - x.gapBelow) * den ≤ num
  high : num ≤ (x.quarters + x.gapAbove) * den
  odd : x.mantissa % 2 = 1 →
    (x.quarters - x.gapBelow) * den < num ∧ num < (x.quarters + x.gapAbove) * den

variable {x : Finite} {num den num' den' : Nat}

/-- A decimal reads back if it lies in the interval. -/
lemma readsBack_iff {g : Grid} {d : Nat} :
    x.readsBack g d = true ↔ x.Covers (d * g.factors.1) g.factors.2 := by
  unfold readsBack
  dsimp only
  split_ifs with heven
  · rw [Bool.and_eq_true, decide_eq_true_iff, decide_eq_true_iff]
    exact ⟨fun h => ⟨h.1, h.2, fun hodd => by omega⟩, fun h => ⟨h.low, h.high⟩⟩
  · rw [Bool.and_eq_true, decide_eq_true_iff, decide_eq_true_iff]
    exact ⟨fun h => ⟨h.1.le, h.2.le, fun _ => h⟩, fun h => h.odd (by omega)⟩

/-- Whether a quotient lies in the interval does not depend on how it is expanded. -/
lemma Covers.congr (h : x.Covers num den) (hden : 0 < den) (hden' : 0 < den')
    (heq : num * den' = num' * den) : x.Covers num' den' := by
  have hle (a : Nat) : a * den ≤ num ↔ a * den' ≤ num' := by
    rw [← Nat.mul_le_mul_right_iff hden', heq, Nat.mul_right_comm, Nat.mul_le_mul_right_iff hden]
  have hge (a : Nat) : num ≤ a * den ↔ num' ≤ a * den' := by
    rw [← Nat.mul_le_mul_right_iff hden', heq, Nat.mul_right_comm, Nat.mul_le_mul_right_iff hden]
  refine ⟨(hle _).1 h.low, (hge _).1 h.high, fun hodd => ?_⟩
  obtain ⟨hlow, hhigh⟩ := h.odd hodd
  exact ⟨Nat.lt_of_not_le fun hnot => Nat.not_le.2 hlow ((hge _).2 hnot),
    Nat.lt_of_not_le fun hnot => Nat.not_le.2 hhigh ((hle _).2 hnot)⟩

/-! ### Rounding -/

/-- Larger powers of two are larger. -/
lemma twoTo_le {d e : Nat} (h : d ≤ e) : twoTo d ≤ twoTo e := Nat.pow_le_pow_right (by decide) h

/-- A number from its mantissa and scale. -/
lemma ofParts_eq (x : Finite) : Binary64.ofParts x.negative x.mantissa x.scale = .finite x :=
  dif_pos ⟨x.mantissa_lt, x.scale_le, x.normal⟩

/-- The scale that a quotient of units is rounded at. -/
lemma scale_eq {q s : Nat} (hhigh : q < twoTo (s + 53)) (hlow : s ≠ 0 → twoTo (s + 52) ≤ q) :
    q.log2 + 1 - 53 = s := by
  rcases Nat.eq_zero_or_pos q with rfl | hq
  · by_contra hs
    have := hlow (Ne.symm hs)
    have := twoTo_pos (s + 52)
    omega
  · have hlt := (Nat.log2_lt hq.ne').2 hhigh
    by_cases hs : s = 0
    · omega
    · have hle := (Nat.le_log2 hq.ne').2 (hlow hs)
      omega

/-- Quarter units are four to a unit. -/
lemma mul_quartersOfOne (n : Nat) : n * quartersOfOne = n * twoTo 1074 * 4 := by
  have hfour : ∀ d e, e = d + 2 → n * twoTo e = n * twoTo d * 4 := by
    rintro d _ rfl
    rw [twoTo_add, Nat.mul_assoc]
  unfold quartersOfOne
  exact hfour 1074 1076 rfl

lemma quartersOfOne_pos : 0 < quartersOfOne := by
  unfold quartersOfOne
  exact twoTo_pos 1076

/-- **A quotient in the interval around a number rounds to it.**

**Proof sketch.** The quotient is rounded at the scale of the number, and half of a unit of this
scale is what the interval reaches. At the foot of a binade it may lie below the numbers of this
scale: then it is rounded at the scale before, to the first mantissa that is too large for it. -/
theorem nearest_eq_of_covers (hx : x.mantissa ≠ 0) (hden : 0 < den)
    (h : x.Covers (num * quartersOfOne) den) :
    Binary64.nearest x.negative num den = .finite x := by
  rw [mul_quartersOfOne] at h
  unfold Binary64.nearest
  dsimp only
  generalize num * twoTo 1074 = u at h ⊢
  have hparts := x.ofParts_eq
  obtain ⟨negative, m, s, hm, hs, hnormal⟩ := x
  obtain ⟨hlow, hhigh, hodd⟩ := h
  simp only [quarters, units, gapBelow, gapAbove] at *
  -- all that follows is measured in units of the scale of the number
  have hunit := twoTo_pos s
  have hone : 0 < den * twoTo s := Nat.mul_pos hden hunit
  have hwhole : 4 * (m * twoTo s) * den = 4 * (m * (den * twoTo s)) := by ring
  have hhalf : 2 * twoTo s * den = 2 * (den * twoTo s) := by ring
  have hquarter : twoTo s * den = den * twoTo s := Nat.mul_comm _ _
  have hbinade : twoTo (s + 52) * den = twoTo 52 * (den * twoTo s) := by
    rw [twoTo_add]
    ring
  have htop : twoTo (s + 53) * den = 2 * (twoTo 52 * (den * twoTo s)) := by
    rw [twoTo_add s 53, show twoTo 53 = 2 * twoTo 52 by decide]
    ring
  have hmantissa : (m + 1) * (den * twoTo s) ≤ 2 * (twoTo 52 * (den * twoTo s)) := by
    rw [← Nat.mul_assoc 2]
    exact Nat.mul_le_mul_right _ hm
  rw [Nat.add_mul, Nat.one_mul] at hmantissa
  rw [Nat.add_mul, Nat.sub_mul, hwhole, hhalf] at hodd
  rw [Nat.add_mul, hwhole, hhalf] at hhigh
  rw [Nat.sub_mul, hwhole] at hlow
  by_cases hfoot : (m = twoTo 52 ∧ 0 < s) ∧ u < m * (den * twoTo s)
  · obtain ⟨⟨rfl, hpos⟩, hbelow⟩ := hfoot
    obtain ⟨s, rfl⟩ := Nat.exists_eq_add_one.2 hpos
    rw [if_pos ⟨rfl, hpos⟩, hquarter] at hlow
    have hdouble : den * twoTo (s + 1) = 2 * (den * twoTo s) := by
      rw [twoTo_add s 1, show twoTo 1 = 2 from rfl]
      ring
    have hbefore : twoTo (s + 52) * den = twoTo 52 * (den * twoTo s) := by
      rw [twoTo_add]
      ring
    have hfirst : twoTo 53 * (den * twoTo s) = 2 * (twoTo 52 * (den * twoTo s)) := by
      rw [show twoTo 53 = 2 * twoTo 52 by decide, Nat.mul_assoc]
    have hbehind : twoTo (s + 53) * den = twoTo 53 * (den * twoTo s) := by
      rw [twoTo_add]
      ring
    have htwice : twoTo 52 * (2 * (den * twoTo s)) = 2 * (twoTo 52 * (den * twoTo s)) := by ring
    have hmore := Nat.le_mul_of_pos_left (den * twoTo s) (twoTo_pos 52)
    rw [hdouble, htwice] at hlow hbelow
    have hscale : (u / den).log2 + 1 - 53 = s := by
      refine scale_eq ((Nat.div_lt_iff_lt_mul hden).2 ?_) fun _ =>
        (Nat.le_div_iff_mul_le hden).2 ?_
      · omega
      · omega
    have hround : roundDiv u (den * twoTo s) = twoTo 53 := by
      refine roundDiv_eq (Nat.mul_pos hden (twoTo_pos s)) (by omega) (by omega) fun hodd => ?_
      exact absurd hodd (by decide)
    rw [hscale, hround, if_pos rfl]
    exact hparts
  · have hround : roundDiv u (den * twoTo s) = m := by
      by_cases hedge : m = twoTo 52 ∧ 0 < s
      · have habove := Nat.le_of_not_lt fun hlt => hfoot ⟨hedge, hlt⟩
        have heven : m % 2 = 0 := hedge.1 ▸ (by decide)
        exact roundDiv_eq hone (by omega) (by omega) fun h => by omega
      · rw [if_neg hedge, hhalf] at hlow hodd
        exact roundDiv_eq hone (by omega) (by omega) fun h => by
          have := hodd h
          omega
    have hscale : (u / den).log2 + 1 - 53 = s := by
      refine scale_eq ((Nat.div_lt_iff_lt_mul hden).2 ?_) fun hs =>
        (Nat.le_div_iff_mul_le hden).2 ?_
      · rw [htop]
        omega
      · rw [hbinade]
        by_cases hedge : m = twoTo 52
        · rw [← hedge]
          exact Nat.le_of_not_lt fun hlt => hfoot ⟨⟨hedge, Nat.pos_of_ne_zero hs⟩, hlt⟩
        · rw [if_neg fun h => hedge h.1, hhalf] at hlow
          have hmore := Nat.mul_le_mul_right (den * twoTo s)
            (show twoTo 52 + 1 ≤ m from by omega)
          rw [Nat.add_mul, Nat.one_mul] at hmore
          omega
    rw [hscale, hround, if_neg (Nat.ne_of_lt hm)]
    exact hparts

/-! ### Decimals -/

/-- Powers of ten are positive. -/
lemma tenTo_pos (e : Nat) : 0 < tenTo e := Nat.pow_pos (by decide)

lemma tenTo_add (d e : Nat) : tenTo (d + e) = tenTo d * tenTo e := Nat.pow_add 10 d e

lemma tenTo_succ (e : Nat) : tenTo (e + 1) = tenTo e * 10 := tenTo_add e 1

/-- Powers of ten whose exponents add up. -/
lemma tenTo_mul {d e f : Nat} (h : d + e = f) : tenTo d * tenTo e = tenTo f := by
  rw [← h, tenTo_add]

/-- Larger powers of ten are larger. -/
lemma tenTo_le {d e : Nat} (h : d ≤ e) : tenTo d ≤ tenTo e := Nat.pow_le_pow_right (by decide) h

/-- A number lies between the powers of ten that its digits are counted by. -/
lemma digitCount_spec (n : Nat) :
    ∃ k, Binary64.digitCount n = k + 1 ∧ n < tenTo (k + 1) ∧ (n ≠ 0 → tenTo k ≤ n) := by
  fun_induction Binary64.digitCount n with
  | case1 n hn => exact ⟨0, rfl, hn, Nat.pos_of_ne_zero⟩
  | case2 n hn ih =>
    obtain ⟨k, hk, hlt, hle⟩ := ih
    have hle := hle (by omega)
    rw [tenTo_succ] at hlt
    refine ⟨k + 1, congrArg (· + 1) hk, ?_, fun _ => ?_⟩
    · rw [tenTo_succ, tenTo_succ]
      omega
    · rw [tenTo_succ]
      omega

/-- The factors of a grid make its step a power of ten. -/
lemma Grid.factors_mul (g : Grid) {a b : Nat} (h : g.power = a - b) :
    g.factors.1 * tenTo b = g.factors.2 * (tenTo a * quartersOfOne) := by
  unfold Grid.factors
  split_ifs with hsign
  · obtain ⟨k, rfl⟩ : ∃ k, a = b + k := ⟨a - b, by omega⟩
    obtain rfl : g.power.toNat = k := by omega
    dsimp only
    rw [tenTo_add]
    ring
  · obtain ⟨k, rfl⟩ : ∃ k, b = a + k := ⟨b - a, by omega⟩
    obtain rfl : (-g.power).toNat = k := by omega
    dsimp only
    rw [tenTo_add]
    ring

/-- The factors of a grid are positive. -/
lemma Grid.factors_pos (g : Grid) : 0 < g.factors.1 ∧ 0 < g.factors.2 := by
  unfold Grid.factors
  split_ifs <;> dsimp only
  · exact ⟨Nat.mul_pos (tenTo_pos _) quartersOfOne_pos, Nat.one_pos⟩
  · exact ⟨quartersOfOne_pos, tenTo_pos _⟩

/-- Whether a decimal reads back does not depend on a zero at its end. -/
lemma readsBack_mul_ten {e : Int} {d : Nat} :
    x.readsBack ⟨e⟩ (d * 10) = true ↔ x.readsBack ⟨e + 1⟩ d = true := by
  rw [readsBack_iff, readsBack_iff]
  obtain ⟨a, b, he⟩ : ∃ a b : Nat, e = a - b := ⟨e.toNat, (-e).toNat, by omega⟩
  have hcoarse := Grid.factors_mul ⟨e + 1⟩ (show e + 1 = ((a + 1 : Nat) : Int) - b by omega)
  have hfine := Grid.factors_mul ⟨e⟩ he
  have hunit := (Grid.factors_pos ⟨e⟩).2
  have hunit' := (Grid.factors_pos ⟨e + 1⟩).2
  generalize (Grid.factors ⟨e + 1⟩).1 = step' at *
  generalize (Grid.factors ⟨e + 1⟩).2 = unit' at *
  generalize (Grid.factors ⟨e⟩).1 = step at *
  generalize (Grid.factors ⟨e⟩).2 = unit at *
  have heq : d * 10 * step * unit' = d * step' * unit := by
    rw [← Nat.mul_left_inj (tenTo_pos b).ne']
    calc d * 10 * step * unit' * tenTo b = d * 10 * unit' * (step * tenTo b) := by ring
      _ = d * unit * (unit' * (tenTo a * 10 * quartersOfOne)) := by rw [hfine]; ring
      _ = d * unit * (step' * tenTo b) := by rw [hcoarse, tenTo_succ]
      _ = d * step' * unit * tenTo b := by ring
  exact ⟨fun h => h.congr hunit hunit' heq, fun h => h.congr hunit' hunit heq.symm⟩

/-- Whether a decimal reads back does not depend on the zeros at its end. -/
lemma readsBack_mul_tenTo {e : Int} {d : Nat} (k : Nat) :
    x.readsBack ⟨e⟩ (d * tenTo k) = true ↔ x.readsBack ⟨e + k⟩ d = true := by
  induction k generalizing e with
  | zero => simp
  | succ k ih =>
    rw [tenTo_succ, ← Nat.mul_assoc, readsBack_mul_ten, ih, Int.add_assoc, Int.add_comm 1,
      ← Int.natCast_add_one]

/-- The interval around a number other than zero begins above zero. -/
lemma two_le_sub_gapBelow (hx : x.mantissa ≠ 0) : 2 ≤ x.quarters - x.gapBelow := by
  have hunit := twoTo_pos x.scale
  have hmore := Nat.le_mul_of_pos_left (twoTo x.scale) (Nat.pos_of_ne_zero hx)
  unfold quarters gapBelow units
  split <;> omega

/-- The interval around a number ends below the decimals that count as infinite. -/
lemma add_gapAbove_lt (x : Finite) :
    x.quarters + x.gapAbove < tenTo 310 * quartersOfOne := by
  have hscale := twoTo_le x.scale_le
  have hmantissa : 4 * x.mantissa + 2 ≤ twoTo 55 := by
    have hlt := x.mantissa_lt
    have hfour : twoTo 55 = 4 * twoTo 53 := by decide
    omega
  have hends : x.quarters + x.gapAbove = (4 * x.mantissa + 2) * twoTo x.scale := by
    unfold quarters gapAbove units
    ring
  have hpowers : twoTo 55 * twoTo 2045 < tenTo 310 * quartersOfOne := by decide +kernel
  rw [hends]
  calc (4 * x.mantissa + 2) * twoTo x.scale ≤ twoTo 55 * twoTo 2045 :=
        Nat.mul_le_mul hmantissa hscale
    _ < tenTo 310 * quartersOfOne := hpowers

/-- A decimal that reads back is neither too large nor too small to be rounded. -/
lemma magnitude_of_readsBack (hx : x.mantissa ≠ 0) {d : Nat} {e : Int}
    (h : x.readsBack ⟨e⟩ d = true) :
    d ≠ 0 ∧ e + Binary64.digitCount d ≤ 310 ∧ -330 ≤ e + Binary64.digitCount d := by
  obtain ⟨hlow, hhigh, -⟩ := readsBack_iff.1 h
  obtain ⟨a, b, he⟩ : ∃ a b : Nat, e = a - b := ⟨e.toNat, (-e).toNat, by omega⟩
  have hstep := Grid.factors_mul ⟨e⟩ he
  have hunit := (Grid.factors_pos ⟨e⟩).2
  have hfoot := two_le_sub_gapBelow hx
  have hend := x.add_gapAbove_lt
  generalize (Grid.factors ⟨e⟩).1 = step at *
  generalize (Grid.factors ⟨e⟩).2 = unit at *
  have hd : d ≠ 0 := by
    rintro rfl
    have := Nat.mul_le_mul_right unit hfoot
    omega
  obtain ⟨k, hk, hlt, hle⟩ := digitCount_spec d
  -- the decimal on the common scale
  have hpoint : d * step * tenTo b = d * tenTo a * (unit * quartersOfOne) := by
    rw [Nat.mul_assoc, hstep]
    ring
  have hscale : 0 < unit * quartersOfOne := Nat.mul_pos hunit quartersOfOne_pos
  refine ⟨hd, ?_, ?_⟩
  · by_contra hlarge
    have hmany : tenTo (310 + b) * (unit * quartersOfOne) ≤ d * step * tenTo b := by
      rw [hpoint]
      refine Nat.mul_le_mul_right _ ?_
      calc tenTo (310 + b) ≤ tenTo (k + a) := tenTo_le (by omega)
        _ = tenTo k * tenTo a := tenTo_add k a
        _ ≤ d * tenTo a := Nat.mul_le_mul_right _ (hle hd)
    have hfew : d * step * tenTo b < tenTo (310 + b) * (unit * quartersOfOne) := by
      calc d * step * tenTo b ≤ (x.quarters + x.gapAbove) * unit * tenTo b :=
            Nat.mul_le_mul_right _ hhigh
        _ < tenTo 310 * quartersOfOne * unit * tenTo b :=
            Nat.mul_lt_mul_of_pos_right (Nat.mul_lt_mul_of_pos_right hend hunit) (tenTo_pos b)
        _ = tenTo (310 + b) * (unit * quartersOfOne) := by
            rw [tenTo_add]
            ring
    omega
  · by_contra hsmall
    have hfew : d * step * tenTo b < tenTo (k + 1 + a) * (unit * quartersOfOne) := by
      rw [hpoint, tenTo_add (k + 1) a]
      exact Nat.mul_lt_mul_of_pos_right (Nat.mul_lt_mul_of_pos_right hlt (tenTo_pos a)) hscale
    have hone : quartersOfOne ≤ 2 * tenTo 331 := by decide +kernel
    have hmany : tenTo (k + 1 + a) * (unit * quartersOfOne) ≤ d * step * tenTo b := by
      calc tenTo (k + 1 + a) * (unit * quartersOfOne)
          ≤ tenTo (k + 1 + a) * (unit * (2 * tenTo 331)) :=
            Nat.mul_le_mul_left _ (Nat.mul_le_mul_left _ hone)
        _ = 2 * unit * tenTo (k + 1 + a + 331) := by
            rw [tenTo_add (k + 1 + a) 331]
            ring
        _ ≤ 2 * unit * tenTo b := Nat.mul_le_mul_left _ (tenTo_le (by omega))
        _ ≤ (x.quarters - x.gapBelow) * unit * tenTo b :=
            Nat.mul_le_mul_right _ (Nat.mul_le_mul_right _ hfoot)
        _ ≤ d * step * tenTo b := Nat.mul_le_mul_right _ hlow
    omega

/-- **A decimal that reads back denotes the number.** -/
theorem ofDecimal_eq_of_readsBack (hx : x.mantissa ≠ 0) {d : Nat} {e : Int}
    (h : x.readsBack ⟨e⟩ d = true) : Binary64.ofDecimal x.negative d e = .finite x := by
  obtain ⟨hd, hlarge, hsmall⟩ := magnitude_of_readsBack hx h
  have hcovers := readsBack_iff.1 h
  unfold Binary64.ofDecimal
  rw [if_neg hd]
  dsimp only
  rw [if_neg (Int.not_lt.2 hlarge), if_neg (Int.not_lt.2 hsmall)]
  unfold Grid.factors at hcovers
  split_ifs at hcovers ⊢ with hsign <;> dsimp only at hcovers
  · rw [← Nat.mul_assoc] at hcovers
    exact nearest_eq_of_covers hx Nat.one_pos hcovers
  · exact nearest_eq_of_covers hx (tenTo_pos _) hcovers

/-! ### The search -/

/-- A hit on a grid reads back. -/
lemma readsBack_of_onGrid? {g : Grid} {d : Nat} (h : x.onGrid? g = some d) :
    x.readsBack g d = true := by
  unfold onGrid? at h
  dsimp only at h
  split at h
  · rename_i hbelow habove
    obtain rfl := Option.some.inj h
    unfold roundDiv
    dsimp only
    split_ifs
    · exact hbelow
    · exact hbelow
    · exact habove
  · rename_i hbelow _
    obtain rfl := Option.some.inj h
    exact hbelow
  · rename_i _ habove
    obtain rfl := Option.some.inj h
    exact habove
  · cases h

/-- A search that meets a hit ends at a decimal that reads back. -/
lemma readsBack_searchFrom_of_hit {tries count i : Nat} (hi : i < tries)
    (h : (x.onGrid? ⟨x.point - (count + i : Nat)⟩).isSome = true) :
    x.readsBack ⟨(x.searchFrom tries count).2⟩ (x.searchFrom tries count).1 = true := by
  induction tries generalizing count i with
  | zero => cases hi
  | succ tries ih =>
    rw [searchFrom]
    dsimp only
    cases hgrid : x.onGrid? ⟨x.point - count⟩ with
    | some d => exact readsBack_of_onGrid? hgrid
    | none =>
      cases i with
      | zero =>
        rw [Nat.add_zero, hgrid] at h
        cases h
      | succ i =>
        rw [Nat.add_left_comm, Nat.add_comm i] at h
        exact ih (Nat.lt_of_succ_lt_succ hi) h

/-- The position of the decimal point bounds the magnitude from below. -/
lemma exists_point (hx : x.mantissa ≠ 0) :
    ∃ k : Nat, x.point = (k + 1 : Nat) - 340 ∧ tenTo k * twoTo 1074 ≤ x.units * tenTo 340 := by
  have hunits : 0 < x.units := Nat.mul_pos (Nat.pos_of_ne_zero hx) (twoTo_pos _)
  have hone : twoTo 1074 ≤ tenTo 340 := by decide +kernel
  obtain ⟨k, hk, -, hle⟩ := digitCount_spec (x.units * tenTo 340 / twoTo 1074)
  refine ⟨k, by rw [point, hk], ?_⟩
  have hsome : x.units * tenTo 340 / twoTo 1074 ≠ 0 := by
    refine (Nat.div_pos ?_ (twoTo_pos _)).ne'
    exact Nat.le_trans hone (Nat.le_mul_of_pos_left _ hunits)
  exact (Nat.le_div_iff_mul_le (twoTo_pos _)).1 (hle hsome)

/-- The interval around a number is not narrow, compared to the number. -/
lemma quarters_lt (x : Finite) : x.quarters < (x.gapBelow + x.gapAbove) * tenTo 16 := by
  have hunit := twoTo_pos x.scale
  have hmantissa := Nat.mul_le_mul_right (twoTo x.scale) x.mantissa_lt
  have hsixteen : tenTo 16 = 10000000000000000 := rfl
  have hfifty : twoTo 53 = 9007199254740992 := rfl
  have hfoot : twoTo 52 = 4503599627370496 := rfl
  unfold quarters gapBelow gapAbove units
  rw [hfifty, Nat.succ_mul] at hmantissa
  rw [hsixteen, hfoot]
  split_ifs with hedge
  · rw [hedge.1]
    omega
  · omega

/-- The step of the grid of seventeen digits is small, compared to the number. -/
lemma step_le (hx : x.mantissa ≠ 0) :
    (Grid.factors ⟨x.point - 17⟩).1 * tenTo 16 ≤
      x.quarters * (Grid.factors ⟨x.point - 17⟩).2 := by
  obtain ⟨k, hpoint, hk⟩ := exists_point hx
  have hstep := Grid.factors_mul ⟨x.point - 17⟩
    (show x.point - 17 = ((k + 1 : Nat) : Int) - (357 : Nat) by omega)
  generalize (Grid.factors ⟨x.point - 17⟩).1 = step at *
  generalize (Grid.factors ⟨x.point - 17⟩).2 = unit at *
  refine Nat.le_of_mul_le_mul_right ?_ (tenTo_pos 341)
  calc step * tenTo 16 * tenTo 341 = step * (tenTo 16 * tenTo 341) := Nat.mul_assoc _ _ _
    _ = step * tenTo 357 := congrArg (step * ·) (tenTo_mul rfl)
    _ = tenTo k * quartersOfOne * (unit * 10) := by
        rw [hstep, tenTo_succ]
        ring
    _ = tenTo k * twoTo 1074 * (4 * unit * 10) := by
        rw [mul_quartersOfOne]
        ring
    _ ≤ x.units * tenTo 340 * (4 * unit * 10) := Nat.mul_le_mul_right _ hk
    _ = x.quarters * unit * (tenTo 340 * tenTo 1) := by
        rw [show tenTo 1 = 10 from rfl, quarters]
        ring
    _ = x.quarters * unit * tenTo 341 := congrArg (x.quarters * unit * ·) (tenTo_mul rfl)

/-- **Seventeen digits are enough.** If neither neighbour of the number on their grid reads back,
the step of the grid is at least as large as the interval around the number. -/
theorem isSome_onGrid?_seventeen (hx : x.mantissa ≠ 0) :
    (x.onGrid? ⟨x.point - 17⟩).isSome = true := by
  have hstep := step_le hx
  have hpos := Grid.factors_pos ⟨x.point - 17⟩
  have hfoot := two_le_sub_gapBelow hx
  have habove : 0 < x.gapAbove := Nat.mul_pos (by decide) (twoTo_pos _)
  by_contra hnone
  have hmisses : x.readsBack ⟨x.point - 17⟩ (x.quarters * (Grid.factors ⟨x.point - 17⟩).2 /
        (Grid.factors ⟨x.point - 17⟩).1) = false ∧
      x.readsBack ⟨x.point - 17⟩ (x.quarters * (Grid.factors ⟨x.point - 17⟩).2 /
        (Grid.factors ⟨x.point - 17⟩).1 + 1) = false := by
    unfold onGrid? at hnone
    dsimp only at hnone
    split at hnone
    · exact absurd rfl hnone
    · exact absurd rfl hnone
    · exact absurd rfl hnone
    · exact ⟨‹_›, ‹_›⟩
  rw [← Bool.not_eq_true, ← Bool.not_eq_true, readsBack_iff, readsBack_iff] at hmisses
  generalize (Grid.factors ⟨x.point - 17⟩).1 = step at *
  generalize (Grid.factors ⟨x.point - 17⟩).2 = unit at *
  have hdiv := Nat.div_add_mod (x.quarters * unit) step
  have hmod := Nat.mod_lt (x.quarters * unit) hpos.1
  rw [Nat.mul_comm step] at hdiv
  generalize x.quarters * unit / step = d at *
  generalize x.quarters * unit % step = r at *
  have hgap := Nat.mul_pos habove hpos.2
  have hends : (x.quarters + x.gapAbove) * unit = x.quarters * unit + x.gapAbove * unit :=
    Nat.add_mul _ _ _
  have hbegins : (x.quarters - x.gapBelow) * unit + x.gapBelow * unit = x.quarters * unit := by
    rw [← Nat.add_mul, Nat.sub_add_cancel (by omega)]
  have hnext : (d + 1) * step = d * step + step := Nat.succ_mul _ _
  have hbelow : d * step ≤ (x.quarters - x.gapBelow) * unit := by
    by_contra hin
    exact hmisses.1 ⟨by omega, by omega, fun _ => by omega⟩
  have hbeyond : (x.quarters + x.gapAbove) * unit ≤ (d + 1) * step := by
    by_contra hin
    exact hmisses.2 ⟨by omega, by omega, fun _ => by omega⟩
  have hwide : (x.gapBelow + x.gapAbove) * unit ≤ step := by
    rw [Nat.add_mul]
    omega
  have hfar := Nat.mul_lt_mul_of_pos_right x.quarters_lt hpos.2
  have hnear := Nat.mul_le_mul_right (tenTo 16) hwide
  rw [Nat.mul_right_comm] at hnear
  omega

/-- **The search ends at a decimal that reads back.** -/
theorem readsBack_searchFrom (hx : x.mantissa ≠ 0) :
    x.readsBack ⟨(x.searchFrom 17 1).2⟩ (x.searchFrom 17 1).1 = true :=
  readsBack_searchFrom_of_hit (by decide : 16 < 17) (isSome_onGrid?_seventeen hx)

/-! ### The shortest digits -/

/-- The zeros that are dropped make up for what is left. -/
lemma dropZeros_spec (n : Nat) : (dropZeros n).1 * tenTo (dropZeros n).2 = n := by
  fun_induction dropZeros n with
  | case1 n h m k hrest ih =>
    rw [hrest] at ih
    dsimp only at ih ⊢
    rw [tenTo_succ, ← Nat.mul_assoc, ih]
    omega
  | case2 n h => exact Nat.mul_one n

/-- **The shortest digits read back.** -/
theorem readsBack_shortest (hx : x.mantissa ≠ 0) :
    x.readsBack ⟨x.shortest.2 - x.shortest.1.length⟩ (Decimal.value x.shortest.1) = true := by
  have hfound := readsBack_searchFrom hx
  have hzeros := dropZeros_spec (x.searchFrom 17 1).1
  rw [← hzeros] at hfound
  have hpower : x.shortest.2 - x.shortest.1.length =
      (x.searchFrom 17 1).2 + (dropZeros (x.searchFrom 17 1).1).2 := by
    unfold shortest
    dsimp only
    omega
  have hvalue : Decimal.value x.shortest.1 = (dropZeros (x.searchFrom 17 1).1).1 :=
    Decimal.value_ofNat _
  rw [hpower, hvalue]
  exact (readsBack_mul_tenTo _).1 hfound

/-- **The shortest digits denote the number.** -/
theorem ofDecimal_shortest (hx : x.mantissa ≠ 0) :
    Binary64.ofDecimal x.negative (Decimal.value x.shortest.1)
      (x.shortest.2 - x.shortest.1.length) = .finite x :=
  ofDecimal_eq_of_readsBack hx (readsBack_shortest hx)

end Finite

end TableClient
