import Mathlib.Data.List.DropRight
import Mathlib.Tactic.Lemma
import TableClient.Url.Instance

set_option relaxedAutoImplicit false
set_option autoImplicit false

/-!
# What becomes of an instance

White space around an instance and slashes after it should not count, so that whatever it is written
like, its URL is in one form that is not changed when it is given again. This is so unless white
space stands before the slashes: it is taken off before them and not again behind them, so that it
stays in the URL. And there is nothing in an instance that consists of slashes, which has the URL of
the hosted service without a host before it.

## Main definitions

* `TableClient.Url.bare` — an instance without what should not count.
* `TableClient.Url.Alike` — two instances differ only in what should not count.
* `TableClient.Url.Settles` — what should become of an instance.
* `TableClient.Url.LeavesBlank`, `TableClient.Url.Hostless` — the instances for which it is
  otherwise.

## Main results

* `TableClient.Url.ofInstance_bare_iff` — when white space and slashes do not count.
* `TableClient.Url.settles_iff` — the instances of which becomes what should.
* `TableClient.Url.Alike.bare_eq` — what is left of instances that are alike.
-/

namespace TableClient

/-! ### Ends of lists -/

namespace Text

variable {α : Type} {p q : α → Bool} {items : List α}

/-- A list ends in an item of a class. -/
def EndsIn (p : α → Bool) (items : List α) : Prop := ∃ a ∈ items.getLast?, p a = true

instance (p : α → Bool) (items : List α) : Decidable (EndsIn p items) :=
  inferInstanceAs (Decidable (∃ a ∈ items.getLast?, p a = true))

/-- A list begins with an item of a class. -/
def BeginsIn (p : α → Bool) (items : List α) : Prop := ∃ a ∈ items.head?, p a = true

/-- What comes first in a list that does not begin with the class does not either. -/
lemma not_beginsIn_of_prefix {part : List α} (hfront : part <+: items) (h : ¬ BeginsIn p items) :
    ¬ BeginsIn p part := by
  rintro ⟨a, ha, hclass⟩
  obtain ⟨more, rfl⟩ := hfront
  cases part with
  | nil => cases ha
  | cons b part => exact h ⟨a, ha, hclass⟩

/-- What is left of a list without the class before it does not begin with the class. -/
lemma not_beginsIn_dropWhile (p : α → Bool) (items : List α) :
    ¬ BeginsIn p (items.dropWhile p) := by
  rintro ⟨a, ha, hclass⟩
  have hnot := List.head?_dropWhile_not p items
  rw [Option.mem_def.1 ha] at hnot
  exact Bool.false_ne_true (Eq.trans (Eq.symm hnot) hclass)

/-- A list with another one behind it ends as that one does. -/
lemma endsIn_append {more : List α} (h : more ≠ []) : EndsIn p (items ++ more) ↔ EndsIn p more := by
  rw [EndsIn, List.getLast?_append_of_ne_nil _ h, EndsIn]

/-- Nothing is cut off the end of a list that does not end in the class. -/
lemma trimEnd_eq_self_iff : trimEnd p items = items ↔ ¬ EndsIn p items := by
  have hlast : EndsIn p items ↔ ∃ h : items ≠ [], p (items.getLast h) = true := by
    cases items <;> simp [EndsIn, List.getLast?_eq_some_getLast]
  rw [hlast, not_exists]
  exact List.rdropWhile_eq_self_iff

/-- What is cut does not end in the class. -/
lemma not_endsIn_trimEnd (p : α → Bool) (items : List α) : ¬ EndsIn p (trimEnd p items) :=
  trimEnd_eq_self_iff.1 (List.rdropWhile_idempotent p items)

/-- Cutting off a class after a smaller one is cutting it off. -/
lemma trimEnd_trimEnd (h : ∀ a, p a = true → q a = true) (items : List α) :
    trimEnd q (trimEnd p items) = trimEnd q items := by
  have hdrop (as : List α) : (as.dropWhile p).dropWhile q = as.dropWhile q := by
    induction as with
    | nil => rfl
    | cons a as ih =>
      by_cases ha : p a = true
      · rw [List.dropWhile_cons_of_pos ha, List.dropWhile_cons_of_pos (h a ha), ih]
      · rw [List.dropWhile_cons_of_neg ha]
  rw [trimEnd, trimEnd, List.reverse_reverse, hdrop, trimEnd]

/-- What is cut off does not count. -/
lemma trimEnd_append {more : List α} (h : ∀ a ∈ more, p a = true) :
    trimEnd p (items ++ more) = trimEnd p items := by
  rw [trimEnd, List.reverse_append,
    List.dropWhile_append_of_pos fun a ha => h a (List.mem_reverse.1 ha), trimEnd]

end Text

namespace Url

open Text (BeginsIn EndsIn isBlank trimEnd)

variable {t t' : Text}

/-! ### What does not count -/

/-- Whether a code point should not count at the end of an instance. -/
def isLoose (p : CodePoint) : Bool := p.isOf isBlank || p == .char '/'

lemma isLoose_of_isBlank (p : CodePoint) (h : p.isOf isBlank = true) : isLoose p = true := by
  simp [isLoose, h]

lemma isLoose_of_slash (p : CodePoint) (h : (p == .char '/') = true) : isLoose p = true := by
  simp [isLoose, h]

/-- An instance without white space before it, and without white space and slashes after it. -/
def bare (t : Text) : Text := ⟨trimEnd isLoose (t.points.dropWhile (·.isOf isBlank))⟩

/-- White space stands before the slashes that end an instance, and is left in its name. -/
def LeavesBlank (t : Text) : Prop := EndsIn (·.isOf isBlank) (trimInstance t).points

instance (t : Text) : Decidable (LeavesBlank t) :=
  inferInstanceAs (Decidable (EndsIn (·.isOf isBlank) (trimInstance t).points))

/-- A text has white space before it, and white space and slashes after it, and nothing else around
another text. -/
def Surrounds (t middle : Text) : Prop :=
  ∃ lead tail, (∀ p ∈ lead, p.isOf isBlank = true) ∧ (∀ p ∈ tail, isLoose p = true) ∧
    t.points = lead ++ middle.points ++ tail

/-- Two instances differ only in white space around them and in slashes after them. -/
def Alike (t t' : Text) : Prop := ∃ middle, Surrounds t middle ∧ Surrounds t' middle

/-- Nothing but what should not count is taken off a text that is surrounded. -/
lemma Surrounds.bare_eq {middle : Text} (h : Surrounds t middle) : bare t = bare middle := by
  obtain ⟨lead, tail, hlead, htail, hpoints⟩ := h
  unfold bare
  rw [hpoints, List.append_assoc, List.dropWhile_append_of_pos hlead, List.dropWhile_append]
  split
  · rename_i hempty
    have htail : trimEnd isLoose (tail.dropWhile (·.isOf isBlank)) = [] :=
      List.rdropWhile_eq_nil_iff.2 fun p hp =>
        htail p ((List.dropWhile_suffix _).subset hp)
    rw [htail, List.isEmpty_iff.1 hempty]
    rfl
  · rw [Text.trimEnd_append htail]

/-- **The same is left** of instances that are alike. -/
theorem Alike.bare_eq (h : Alike t t') : bare t = bare t' := by
  obtain ⟨middle, h, h'⟩ := h
  rw [h.bare_eq, h'.bare_eq]

/-- A name does not end in a slash. -/
lemma not_endsIn_slash (t : Text) : ¬ EndsIn (· == .char '/') (trimInstance t).points :=
  Text.not_endsIn_trimEnd _ _

/-- What should not count is taken off a name, if it is still there. -/
lemma trimEnd_trimInstance (t : Text) :
    trimEnd isLoose (trimInstance t).points = (bare t).points :=
  (Text.trimEnd_trimEnd isLoose_of_slash _).trans (Text.trimEnd_trimEnd isLoose_of_isBlank _)

/-- A name is what is left of the instance unless it still ends in white space. -/
lemma trimInstance_eq_bare_iff : trimInstance t = bare t ↔ ¬ LeavesBlank t := by
  have hloose : EndsIn isLoose (trimInstance t).points ↔ LeavesBlank t := by
    constructor
    · rintro ⟨p, hp, hloose⟩
      rcases Bool.or_eq_true_iff.1 hloose with hblank | hslash
      · exact ⟨p, hp, hblank⟩
      · exact absurd ⟨p, hp, hslash⟩ (not_endsIn_slash t)
    · rintro ⟨p, hp, hblank⟩
      exact ⟨p, hp, Bool.or_eq_true_iff.2 (.inl hblank)⟩
  rw [← hloose, ← Text.trimEnd_eq_self_iff, trimEnd_trimInstance]
  constructor
  · intro h
    exact congrArg Text.points h.symm
  · intro h
    exact congrArg Text.mk h.symm

/-- A name does not begin with white space. -/
lemma not_beginsIn_trimInstance (t : Text) :
    ¬ BeginsIn (·.isOf isBlank) (trimInstance t).points := by
  have hfront : (trimInstance t).points <+: t.points.dropWhile (·.isOf isBlank) :=
    (List.rdropWhile_prefix _ _).trans (List.rdropWhile_prefix _ _)
  exact Text.not_beginsIn_of_prefix hfront (Text.not_beginsIn_dropWhile _ _)

/-- A text with nothing to take off is its own name. -/
lemma trimInstance_eq_self (hbegin : ¬ BeginsIn (·.isOf isBlank) t.points)
    (hblank : ¬ EndsIn (·.isOf isBlank) t.points) (hslash : ¬ EndsIn (· == .char '/') t.points) :
    trimInstance t = t := by
  have hdrop : t.points.dropWhile (·.isOf isBlank) = t.points := by
    cases hpoints : t.points with
    | nil => rfl
    | cons p ps =>
      rw [hpoints] at hbegin
      exact List.dropWhile_cons_of_neg fun h => hbegin ⟨p, rfl, h⟩
  refine congrArg Text.mk ?_
  rw [Text.strip, Text.trim, hdrop, Text.trimEnd_eq_self_iff.2 hblank,
    Text.trimEnd_eq_self_iff.2 hslash]

/-- What is left of an instance ends in nothing that should not count. -/
lemma not_endsIn_bare {p : CodePoint → Bool} (h : ∀ a, p a = true → isLoose a = true) (t : Text) :
    ¬ EndsIn p (bare t).points := by
  rintro ⟨a, ha, hclass⟩
  exact Text.not_endsIn_trimEnd isLoose _ ⟨a, ha, h a hclass⟩

/-- What is left of an instance is its own name. -/
lemma trimInstance_bare (t : Text) : trimInstance (bare t) = bare t := by
  refine trimInstance_eq_self ?_ (not_endsIn_bare isLoose_of_isBlank t)
    (not_endsIn_bare isLoose_of_slash t)
  exact Text.not_beginsIn_of_prefix (List.rdropWhile_prefix _ _) (Text.not_beginsIn_dropWhile _ _)

/-! ### URLs -/

/-- A part occurs in a list when it stands there in one piece. -/
lemma occursIn_iff {α : Type} [DecidableEq α] {part items : List α} :
    occursIn part items = true ↔ part <:+: items := by
  induction items with
  | nil => rw [occursIn, List.isEmpty_iff, List.infix_nil]
  | cons a items ih =>
    rw [occursIn, Bool.or_eq_true_iff, List.isPrefixOf_iff_prefix, ih, List.infix_cons_iff]

/-- A text has a scheme. -/
def HasScheme (t : Text) : Prop := schemeMark.points <:+: t.points

/-- A text has a dot. -/
def HasDot (t : Text) : Prop := .char '.' ∈ t.points

/-- **The URL of an instance** is its name, or a scheme and the name, or a scheme, the name and the
domain of the hosted service. -/
lemma ofInstance_cases (t : Text) :
    HasScheme (trimInstance t) ∧ ofInstance t = trimInstance t ∨
    ¬ HasScheme (trimInstance t) ∧ HasDot (trimInstance t) ∧
      ofInstance t = "https://" ++ trimInstance t ∨
    ¬ HasScheme (trimInstance t) ∧ ¬ HasDot (trimInstance t) ∧
      ofInstance t = "https://" ++ trimInstance t ++ "." ++ hostedDomain := by
  unfold ofInstance HasScheme HasDot
  rw [← occursIn_iff, ← List.contains_iff_mem]
  dsimp only
  split
  · exact .inl ⟨‹_›, rfl⟩
  · split
    · exact .inr (.inl ⟨‹_›, ‹_›, rfl⟩)
    · exact .inr (.inr ⟨‹_›, ‹_›, rfl⟩)

/-- A URL has a scheme. -/
lemma hasScheme_ofInstance (t : Text) : HasScheme (ofInstance t) := by
  have hsecure (rest : List CodePoint) :
      schemeMark.points <:+: Text.points "https://" ++ rest := ⟨Text.points "https", rest, rfl⟩
  rcases ofInstance_cases t with ⟨h, hurl⟩ | ⟨-, -, hurl⟩ | ⟨-, -, hurl⟩
  · rwa [hurl]
  · rw [hurl]
    exact hsecure _
  · rw [hurl]
    exact hsecure ((trimInstance t).points ++ Text.points "." ++ Text.points hostedDomain)

/-- Instances with the same name have the same URL. -/
lemma ofInstance_congr (h : trimInstance t = trimInstance t') : ofInstance t = ofInstance t' := by
  unfold ofInstance
  rw [h]

/-- How the URL of an instance ends: as its name does if that has a scheme or a dot, and like the
domain of the hosted service if not. -/
lemma endsIn_ofInstance {p : CodePoint → Bool} (h : p (.char 'm') = false) (t : Text) :
    EndsIn p (ofInstance t).points ↔ EndsIn p (trimInstance t).points ∧
      (HasScheme (trimInstance t) ∨ HasDot (trimInstance t)) := by
  rcases ofInstance_cases t with ⟨hscheme, hurl⟩ | ⟨hscheme, hdot, hurl⟩ | ⟨hscheme, hdot, hurl⟩
  · simp [hurl, hscheme]
  · have hname : (trimInstance t).points ≠ [] := List.ne_nil_of_mem hdot
    have hends : EndsIn p (ofInstance t).points ↔ EndsIn p (trimInstance t).points := by
      rw [hurl]
      exact Text.endsIn_append hname
    simp [hends, hdot]
  · have hdomain : EndsIn p (ofInstance t).points ↔ EndsIn p (Text.points hostedDomain) := by
      rw [hurl]
      exact Text.endsIn_append (List.cons_ne_nil _ _)
    have hends : ¬ EndsIn p (Text.points hostedDomain) := by
      rintro ⟨a, ha, hclass⟩
      cases ha
      exact Bool.false_ne_true (h.symm.trans hclass)
    simp [hdomain, hends, hscheme, hdot]

/-- A URL does not begin with white space. -/
lemma not_beginsIn_ofInstance (t : Text) : ¬ BeginsIn (·.isOf isBlank) (ofInstance t).points := by
  have hsecure (rest : List CodePoint) :
      ¬ BeginsIn (·.isOf isBlank) (Text.points "https://" ++ rest) := by
    rintro ⟨a, ha, hclass⟩
    cases ha
    exact absurd hclass (by decide)
  rcases ofInstance_cases t with ⟨-, hurl⟩ | ⟨-, -, hurl⟩ | ⟨-, -, hurl⟩
  · rw [hurl]
    exact not_beginsIn_trimInstance t
  · rw [hurl]
    exact hsecure _
  · rw [hurl]
    exact hsecure ((trimInstance t).points ++ Text.points "." ++ Text.points hostedDomain)

/-- No slash is behind a URL. -/
lemma not_endsIn_slash_ofInstance (t : Text) :
    ¬ EndsIn (· == .char '/') (ofInstance t).points := fun h =>
  not_endsIn_slash t ((endsIn_ofInstance rfl t).1 h).1

/-- A URL that does not end in white space is not changed. -/
lemma ofInstance_ofInstance (h : ¬ EndsIn (·.isOf isBlank) (ofInstance t).points) :
    ofInstance (ofInstance t) = ofInstance t := by
  have hname : trimInstance (ofInstance t) = ofInstance t :=
    trimInstance_eq_self (not_beginsIn_ofInstance t) h (not_endsIn_slash_ofInstance t)
  have hscheme := hasScheme_ofInstance t
  rcases ofInstance_cases (ofInstance t) with ⟨-, hurl⟩ | ⟨hnot, -⟩ | ⟨hnot, -⟩
  · exact hurl.trans hname
  · exact absurd (hname.symm ▸ hscheme) hnot
  · exact absurd (hname.symm ▸ hscheme) hnot

/-- Different names have different hosts of the hosted service. -/
lemma hosted_injective {name name' : Text}
    (h : "https://" ++ name ++ "." ++ hostedDomain =
      Text.ofString "https://" ++ name' ++ "." ++ hostedDomain) : name = name' := by
  have hpoints := List.append_cancel_right (List.append_cancel_right (congrArg Text.points h))
  exact congrArg Text.mk (List.append_cancel_left hpoints)

/-- **White space and slashes do not count** unless white space stands before the slashes. -/
theorem ofInstance_bare_iff : ofInstance (bare t) = ofInstance t ↔ ¬ LeavesBlank t := by
  have hbare : trimInstance (bare t) = bare t := trimInstance_bare t
  constructor
  · intro heq hblank
    have hfront : (bare t).points <+: (trimInstance t).points := by
      rw [← trimEnd_trimInstance]
      exact List.rdropWhile_prefix _ _
    by_cases hnamed : HasScheme (trimInstance t) ∨ HasDot (trimInstance t)
    · have hends := (endsIn_ofInstance rfl t).2 ⟨hblank, hnamed⟩
      rw [← heq, endsIn_ofInstance rfl, hbare] at hends
      exact not_endsIn_bare isLoose_of_isBlank t hends.1
    -- what is left of a name without scheme and dot has none either, so both get the domain
    · obtain ⟨hscheme, hdot⟩ := not_or.1 hnamed
      have hscheme' : ¬ HasScheme (bare t) := fun h => hscheme (h.trans hfront.isInfix)
      have hdot' : ¬ HasDot (bare t) := fun h => hdot (hfront.subset h)
      obtain ⟨h, -⟩ | ⟨-, h, -⟩ | ⟨-, -, hurl⟩ := ofInstance_cases t
      · exact hscheme h
      · exact hdot h
      have hcases := ofInstance_cases (bare t)
      rw [hbare] at hcases
      obtain ⟨h, -⟩ | ⟨-, h, -⟩ | ⟨-, -, hurl'⟩ := hcases
      · exact hscheme' h
      · exact hdot' h
      have hname : trimInstance t = bare t :=
        hosted_injective (hurl.symm.trans (heq.symm.trans hurl'))
      exact trimInstance_eq_bare_iff.1 hname hblank
  · intro h
    refine ofInstance_congr ?_
    rw [hbare, trimInstance_eq_bare_iff.2 h]

/-! ### What should become of an instance -/

/-- The URL of the hosted service without a host before its domain. -/
def hostless : Text := "https://.service-now.com"

/-- There is no host in an instance: it consists of slashes, or is the domain with nothing before
it. -/
def Hostless (t : Text) : Prop :=
  (∃ n, t.strip.points = List.replicate (n + 1) (.char '/')) ∨
    trimInstance t = ".service-now.com" ∨ trimInstance t = hostless

/-- There is no host in the URL of an instance that is not blank exactly when there is none in the
instance. -/
lemma ofInstance_eq_hostless_iff (h : t.strip.isEmpty = false) :
    ofInstance t = hostless ↔ Hostless t := by
  have hslashes : (∃ n, t.strip.points = List.replicate (n + 1) (.char '/')) ↔
      trimInstance t = "" := by
    constructor
    · rintro ⟨n, hn⟩
      refine congrArg Text.mk (List.rdropWhile_eq_nil_iff.2 fun p hp => ?_)
      rw [hn] at hp
      exact beq_iff_eq.2 (List.eq_of_mem_replicate hp)
    · intro hname
      have hall := List.rdropWhile_eq_nil_iff.1 (congrArg Text.points hname)
      cases hpoints : t.strip.points with
      | nil =>
        rw [Text.isEmpty, hpoints] at h
        cases h
      | cons p ps =>
        refine ⟨ps.length, List.eq_replicate_iff.2 ⟨rfl, fun q hq => ?_⟩⟩
        exact beq_iff_eq.1 (hall q (hpoints ▸ hq))
  have hnamed {name : Text} (hname : trimInstance t = name) (hself : trimInstance name = name)
      (hurl : ofInstance name = hostless) : ofInstance t = hostless :=
    (ofInstance_congr (hname.trans hself.symm)).trans hurl
  unfold Hostless
  rw [hslashes]
  constructor
  · intro heq
    rcases ofInstance_cases t with ⟨-, hurl⟩ | ⟨-, -, hurl⟩ | ⟨-, -, hurl⟩
    · exact .inr (.inr (hurl.symm.trans heq))
    · have hpoints : (trimInstance t).points = Text.points ".service-now.com" :=
        List.append_cancel_left (congrArg Text.points (hurl.symm.trans heq))
      exact .inr (.inl (congrArg Text.mk hpoints))
    · exact .inl (hosted_injective (hurl.symm.trans heq))
  · rintro (hname | hname | hname)
    · exact hnamed hname (by decide +kernel) (by decide +kernel)
    · exact hnamed hname (by decide +kernel) (by decide +kernel)
    · exact hnamed hname (by decide +kernel) (by decide +kernel)

/-- What should become of an instance. -/
structure Settles (t : Text) : Prop where
  /-- Its URL has a scheme. -/
  scheme : HasScheme (ofInstance t)
  /-- No slash is behind its URL. -/
  slash : ¬ EndsIn (· == .char '/') (ofInstance t).points
  /-- No white space is behind its URL. -/
  blank : ¬ EndsIn (·.isOf isBlank) (ofInstance t).points
  /-- There is a host in its URL. -/
  host : ofInstance t ≠ hostless
  /-- Its URL is an instance with the same URL. -/
  fixed : ofInstance (ofInstance t) = ofInstance t
  /-- White space around it and slashes after it do not count. -/
  loose : ofInstance (bare t) = ofInstance t

/-- **What should become of an instance** that is not blank becomes of it unless white space stands
before the slashes at its end or there is no host in it.

**Proof sketch.** The name of an instance is what is left of it unless it ends in white space
(`trimInstance_eq_bare_iff`), and then its URL ends in white space too, or it ends in the domain of
the hosted service with this white space before it (`endsIn_ofInstance`). A URL that does not end in
white space is its own name, and as it has a scheme it is not changed (`ofInstance_ofInstance`). -/
theorem settles_iff (h : t.strip.isEmpty = false) :
    Settles t ↔ ¬ LeavesBlank t ∧ ¬ Hostless t := by
  rw [← ofInstance_bare_iff, ← ofInstance_eq_hostless_iff h]
  constructor
  · intro hsettles
    exact ⟨hsettles.loose, hsettles.host⟩
  · rintro ⟨hloose, hhost⟩
    have hblank : ¬ EndsIn (·.isOf isBlank) (ofInstance t).points := fun hends =>
      ofInstance_bare_iff.1 hloose ((endsIn_ofInstance rfl t).1 hends).1
    exact ⟨hasScheme_ofInstance t, not_endsIn_slash_ofInstance t, hblank, hhost,
      ofInstance_ofInstance hblank, hloose⟩

end Url

end TableClient
