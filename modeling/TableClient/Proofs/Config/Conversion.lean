import Mathlib.Data.List.TakeWhile
import TableClient.Proofs.Config.Precedence

set_option relaxedAutoImplicit false
set_option autoImplicit false

/-!
# Texts that stand for themselves

The text of a variable is read as a truth value or a number when it can be, whatever its setting is.
So a setting that is a text is what its variable was set to only if the text can be read as neither;
but for the directory of the log, which is given out as text again, it is enough that the value that
was read is written as the text was.

## Main definitions

* `TableClient.Config.StandsForItself` — the texts that are read as nothing else.
* `TableClient.Config.Setting.texts` — the settings that are texts.
* `TableClient.Config.Setting.Keeps` — the texts that a setting gives out as they are.

## Main results

* `TableClient.Decimal.exists_lenient?` — what is read as an integer can be read as a number.
* `TableClient.Config.convert_eq_text_iff` — which texts are read as texts.
* `TableClient.Config.value_eq_text_iff` — when a setting is what its variable was set to.
-/

namespace TableClient.Decimal

/-- A run of digits is the number that it denotes. -/
lemma exists_digits? {cs : List Char} (hne : cs ≠ []) (hdigits : cs.all isDigit = true)
    (negative : Bool) : ∃ x, digits? negative cs = some x := by
  have htake : cs.takeWhile isDigit = cs :=
    List.takeWhile_eq_self_iff.2 (List.all_eq_true.1 hdigits)
  have hdrop : cs.dropWhile isDigit = [] :=
    List.dropWhile_eq_nil_iff.2 (List.all_eq_true.1 hdigits)
  have hfull : cs.isEmpty = false := by simpa using hne
  rw [digits?, htake, hdrop]
  simp only [hfull, Bool.false_and]
  exact ⟨_, rfl⟩

/-- **What can be read as an integer can be read as a number.** -/
theorem exists_lenient? {t : Text} {n : Int} (h : lenientInt? t = some n) :
    ∃ x, lenient? t = some x := by
  obtain ⟨cs, hcs, hint⟩ := Option.bind_eq_some_iff.1 h
  rw [lenient?, hcs, Option.bind_some, plain?]
  dsimp only at hint ⊢
  split at hint
  · rename_i hdigits
    split
    · exact ⟨_, rfl⟩
    · split
      · exact ⟨_, rfl⟩
      · exact exists_digits? hdigits.1 hdigits.2.1 _
  · cases hint

end TableClient.Decimal

namespace TableClient.Config

/-- A text that names no truth value and denotes no number. -/
def StandsForItself (t : Text) : Prop := truthValue? t = none ∧ Decimal.lenient? t = none

/-- **Which texts are read as texts**: those that stand for themselves. -/
theorem convert_eq_text_iff {t u : Text} : convert t = .text u ↔ StandsForItself t ∧ t = u := by
  unfold convert StandsForItself
  cases truthValue? t with
  | some b => simp
  | none =>
    cases hint : dotlessInt? t with
    | some n =>
      have hlenient : Decimal.lenientInt? t = some n := by
        unfold dotlessInt? at hint
        split at hint
        · cases hint
        · exact hint
      obtain ⟨x, hx⟩ := Decimal.exists_lenient? hlenient
      simp [hx]
    | none => cases Decimal.lenient? t <;> simp

namespace Setting

/-- The settings that are texts. -/
def texts : List Setting := [service, scope, directory]

/-- The texts that a setting gives out as they are when its variable is set to them. The directory
of the log is given out as the text of what was read. -/
def Keeps (s : Setting) (t : Text) : Prop :=
  match s with
  | directory => (convert t).shown = t
  | _ => StandsForItself t

/-- A setting that is a text gives out the texts that it keeps. -/
lemma shown_convert_iff {s : Setting} (hs : s ∈ texts) (t : Text) :
    s.shown (convert t) = .text t ↔ s.Keeps t := by
  have hself : convert t = .text t ↔ StandsForItself t := by simp [convert_eq_text_iff]
  cases s with
  | service => exact hself
  | scope => exact hself
  | directory => exact ⟨Value.text.inj, congrArg Value.text⟩
  | timeout => exact absurd hs (by decide)
  | level => exact absurd hs (by decide)

end Setting

/-- **When a setting is what its variable was set to**: when it keeps the text. -/
theorem value_eq_text_iff {file : FileContent} {env : Environment} {c : Config}
    (h : load file env = .ok c) {s : Setting} (hs : s ∈ Setting.texts) {t : Text}
    (ht : env.get? s.envVar = some t) : s.value c = .text t ↔ s.Keeps t := by
  rw [value_of_load h s, ht]
  exact Setting.shown_convert_iff hs t

end TableClient.Config
