import Mathlib.Data.Bool.AllAny
import TableClient.Binary64.Shortest
import TableClient.Decimal.Reading
import TableClient.Proofs.Decimal.Numeral

set_option relaxedAutoImplicit false
set_option autoImplicit false

/-!
# The characters of the text of a number

However a number is written, positional or scientific, and also when it is not finite, its text is
made of digits, points, signs and small letters. So it has no separators, such as commas, in it.

## Main definitions

* `TableClient.Binary64.IsMark` — the characters that the text of a number may have.

## Main results

* `TableClient.Binary64.isMark_of_mem_text` — the characters of the text of a number.
-/

namespace TableClient

namespace Binary64

/-- A digit, point, sign or small letter. -/
def IsMark (c : Char) : Prop :=
  Decimal.isDigit c = true ∨ c ∈ ['.', '+', '-'] ∨ c.isLower = true

instance : DecidablePred IsMark := fun c =>
  inferInstanceAs (Decidable (Decimal.isDigit c = true ∨ c ∈ ['.', '+', '-'] ∨ c.isLower = true))

end Binary64

namespace Finite

open Binary64 (IsMark)

section

variable {digits : List Char} (h : ∀ c ∈ digits, IsMark c) (point : Int)

/-- Zeros are digits. -/
lemma isMark_of_mem_zeros {count : Nat} : ∀ c ∈ List.replicate count '0', IsMark c := by
  intro c hc
  obtain rfl := List.eq_of_mem_replicate hc
  decide

include h in
/-- The characters of a positional text. -/
lemma isMark_of_mem_positional : ∀ c ∈ positional digits point, IsMark c := by
  unfold positional
  split
  · refine List.forall_mem_cons.2 ⟨by decide, List.forall_mem_cons.2 ⟨by decide, ?_⟩⟩
    exact List.forall_mem_append.2 ⟨isMark_of_mem_zeros, h⟩
  · have hfraction : ∀ c ∈ if (digits.drop point.toNat).isEmpty then ['0']
        else digits.drop point.toNat, IsMark c := by
      split
      · exact List.forall_mem_singleton.2 (by decide)
      · exact fun c hc => h c (List.mem_of_mem_drop hc)
    refine List.forall_mem_append.2 ⟨List.forall_mem_append.2 ⟨?_, isMark_of_mem_zeros⟩, ?_⟩
    · exact fun c hc => h c (List.mem_of_mem_take hc)
    · exact List.forall_mem_cons.2 ⟨by decide, hfraction⟩

include h in
/-- The characters of a scientific text. -/
lemma isMark_of_mem_scientific : ∀ c ∈ scientific digits point, IsMark c := by
  have hexponent : ∀ c ∈ Numeral.padded 2 (point - 1).natAbs, IsMark c := fun c hc =>
    .inl (Numeral.isSome_of_mem_padded 2 _ c hc)
  have hsign : IsMark (if point - 1 < 0 then '-' else '+') := by
    split <;> decide
  unfold scientific
  refine List.forall_mem_append.2 ⟨?_, ?_⟩
  · split
    · obtain ⟨hfirst, hrest⟩ := List.forall_mem_cons.1 h
      exact List.forall_mem_cons.2 ⟨hfirst, List.forall_mem_cons.2 ⟨by decide, hrest⟩⟩
    · exact h
  · exact List.forall_mem_cons.2 ⟨by decide, List.forall_mem_cons.2 ⟨hsign, hexponent⟩⟩

end

/-- The characters of the text of a magnitude. -/
lemma isMark_of_mem_magnitudeText (x : Finite) : ∀ c ∈ x.magnitudeText, IsMark c := by
  have hdigits : ∀ c ∈ x.shortest.1, IsMark c := fun c hc =>
    .inl (Numeral.isSome_of_mem_ofNat _ c hc)
  unfold magnitudeText
  split
  · exact List.all_iff_forall_prop.1 (by decide)
  · dsimp only
    split
    · exact isMark_of_mem_positional hdigits _
    · exact isMark_of_mem_scientific hdigits _

end Finite

namespace Binary64

/-- **The characters of the text of a number** are digits, points, signs and small letters. -/
theorem isMark_of_mem_text (x : Binary64) : ∀ c ∈ x.text.toList, IsMark c := by
  cases x with
  | finite x =>
    have hmagnitude := x.isMark_of_mem_magnitudeText
    rw [text, textWith, String.toList_ofList]
    split
    · exact List.forall_mem_cons.2 ⟨by decide, hmagnitude⟩
    · exact hmagnitude
  | infinite negative =>
    cases negative <;> exact List.all_iff_forall_prop.1 (by decide)
  | notANumber => exact List.all_iff_forall_prop.1 (by decide)

end Binary64

end TableClient
