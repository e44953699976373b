import TableClient.Proofs.Url.Path
import TableClient.TableName

set_option relaxedAutoImplicit false
set_option autoImplicit false

/-!
# Names of tables

What the naming convention says of every text. A pattern is read place by place, so that a text fits
the convention exactly when it is a name: a letter and word characters. The alternative for custom
tables takes nothing that the other one does not take. As the end of a text is also found before a
line feed that ends it, the convention accepts one text more for every name: the name with a line
feed behind it.

## Main definitions

* `TableClient.TableName.IsName` — the names.
* `TableClient.TableName.IsTerminated` — the names with a line feed behind them.

## Main results

* `TableClient.Text.Pattern.readFrom_many_finish_iff` — what is left when a class is read to the
  end.
* `TableClient.TableName.isConventional_eq` — the alternative for custom tables adds nothing.
* `TableClient.TableName.isConventional_iff` — what the convention accepts.
* `TableClient.TableName.IsName.isOwnSegment` — a name is its own segment of a path.
-/

namespace TableClient

/-! ### Reading by a pattern -/

namespace Text.Pattern

variable {p : Char → Bool} {first second pattern : Pattern} {place last : Place}

/-- A pattern can be read from a place. -/
def ReadFrom (pattern : Pattern) (place : Place) : Prop := ∃ last, last ∈ pattern.ends place

/-- A text fits a pattern that can be read from its beginning. -/
lemma fits_iff {t : Text} : pattern.fits t = true ↔ pattern.ReadFrom ⟨true, t.points⟩ := by
  unfold fits
  rw [Bool.not_eq_true', List.isEmpty_eq_false_iff_exists_mem]
  rfl

/-- One pattern and then another are read by way of a place between them. -/
lemma readFrom_seq_iff : (seq first second).ReadFrom place ↔
    ∃ middle ∈ first.ends place, second.ReadFrom middle := by
  constructor
  · rintro ⟨last, h⟩
    obtain ⟨middle, hmiddle, hlast⟩ := List.mem_flatMap.1 h
    exact ⟨middle, hmiddle, last, hlast⟩
  · rintro ⟨middle, hmiddle, last, hlast⟩
    exact ⟨last, List.mem_flatMap.2 ⟨middle, hmiddle, hlast⟩⟩

/-- One pattern or another is read. -/
lemma readFrom_either_iff : (either first second).ReadFrom place ↔
    first.ReadFrom place ∨ second.ReadFrom place := by
  unfold ReadFrom
  rw [← exists_or]
  exact exists_congr fun last => List.mem_append

/-- At the beginning, the beginning is read. -/
lemma readFrom_start_seq_iff {points : List CodePoint} :
    (seq start second).ReadFrom ⟨true, points⟩ ↔ second.ReadFrom ⟨true, points⟩ := by
  have hends : start.ends ⟨true, points⟩ = [⟨true, points⟩] := rfl
  rw [readFrom_seq_iff, hends]
  simp

/-- The end is read at the end, and before a line feed at the end. -/
lemma readFrom_finish_iff :
    finish.ReadFrom place ↔ place.rest = [] ∨ place.rest = [.char '\n'] := by
  unfold ReadFrom ends
  split <;> simp [*]

/-- A character of a class is read, and then what is behind it. -/
lemma readFrom_one_seq_iff : (seq (one p) second).ReadFrom place ↔
    ∃ c rest, p c = true ∧ place.rest = .char c :: rest ∧ second.ReadFrom ⟨false, rest⟩ := by
  obtain ⟨isStart, points⟩ := place
  have hends (c : Char) (rest : List CodePoint) : (one p).ends ⟨isStart, .char c :: rest⟩ =
      if p c = true then [⟨false, rest⟩] else [] := rfl
  rw [readFrom_seq_iff]
  constructor
  · rintro ⟨middle, hmiddle, h⟩
    cases points with
    | nil => cases hmiddle
    | cons point rest =>
      cases point with
      | surrogate n => cases hmiddle
      | char c =>
        rw [hends] at hmiddle
        split at hmiddle
        · rename_i hc
          cases List.mem_singleton.1 hmiddle
          exact ⟨c, rest, hc, rfl, h⟩
        · cases hmiddle
  · rintro ⟨c, rest, hc, rfl, h⟩
    rw [hends, if_pos hc]
    exact ⟨_, List.mem_singleton_self _, h⟩

/-- Characters of a class are read up to what comes behind them. -/
lemma mem_run {cs : List Char} (h : ∀ c ∈ cs, p c = true) (isStart : Bool)
    (rest : List CodePoint) :
    ⟨isStart && cs.isEmpty, rest⟩ ∈ run p isStart (cs.map .char ++ rest) := by
  induction cs generalizing isStart with
  | nil =>
    rw [List.isEmpty_nil, Bool.and_true]
    cases rest with
    | nil => exact List.mem_singleton_self _
    | cons point rest => exact List.mem_append_right _ (List.mem_singleton_self _)
  | cons c cs ih =>
    obtain ⟨hc, hcs⟩ := List.forall_mem_cons.1 h
    have hrest := ih hcs false
    rw [Bool.false_and] at hrest
    rw [List.isEmpty_cons, Bool.and_false]
    refine List.mem_append_left _ ?_
    change _ ∈ if p c = true then run p false (cs.map .char ++ rest) else []
    rwa [if_pos hc]

/-- Before every place that characters of a class are read up to, there are none but them. -/
lemma exists_of_mem_run {isStart : Bool} {points : List CodePoint}
    (h : last ∈ run p isStart points) :
    ∃ cs : List Char, (∀ c ∈ cs, p c = true) ∧ points = cs.map .char ++ last.rest := by
  induction points generalizing isStart with
  | nil =>
    cases List.mem_singleton.1 h
    exact ⟨[], by simp⟩
  | cons point points ih =>
    rcases List.mem_append.1 h with hfar | hhere
    · split at hfar
      · rename_i hpoint
        cases point with
        | surrogate n => cases hpoint
        | char c =>
          obtain ⟨cs, hcs, rfl⟩ := ih hfar
          exact ⟨c :: cs, List.forall_mem_cons.2 ⟨hpoint, hcs⟩, rfl⟩
      · cases hfar
    · cases List.mem_singleton.1 hhere
      exact ⟨[], by simp⟩

/-- **Any number of characters of a class is read up to the end** when there is nothing else but a
line feed behind them. -/
lemma readFrom_many_finish_iff : (seq (many p) finish).ReadFrom place ↔
    ∃ (cs : List Char) (rest : List CodePoint), (∀ c ∈ cs, p c = true) ∧
      place.rest = cs.map .char ++ rest ∧ (rest = [] ∨ rest = [.char '\n']) := by
  obtain ⟨isStart, points⟩ := place
  rw [readFrom_seq_iff]
  constructor
  · rintro ⟨middle, hmiddle, h⟩
    obtain ⟨cs, hcs, hpoints⟩ := exists_of_mem_run hmiddle
    exact ⟨cs, middle.rest, hcs, hpoints, readFrom_finish_iff.1 h⟩
  · rintro ⟨cs, rest, hcs, rfl, hrest⟩
    exact ⟨_, mem_run hcs isStart rest, readFrom_finish_iff.2 hrest⟩

end Text.Pattern

/-! ### Names -/

namespace TableName

open Text (Pattern)

/-- A name: a lower-case letter, then any number of lower-case letters, digits and underscores. -/
def IsName (t : Text) : Prop :=
  ∃ (c : Char) (cs : List Char), isLetter c = true ∧ (∀ d ∈ cs, isWordChar d = true) ∧
    t = .ofChars (c :: cs)

/-- A name with a line feed behind it. -/
def IsTerminated (t : Text) : Prop := ∃ name, IsName name ∧ t = name ++ "\n"

variable {t : Text}

/-- The texts that fit the pattern of names: names, with a line feed behind them or without. -/
lemma plainPattern_fits_iff : plainPattern.fits t = true ↔ IsName t ∨ IsTerminated t := by
  obtain ⟨points⟩ := t
  rw [Pattern.fits_iff, plainPattern, Pattern.readFrom_start_seq_iff, Pattern.readFrom_one_seq_iff]
  constructor
  · rintro ⟨c, rest, hc, rfl, hrest⟩
    obtain ⟨cs, tail, hcs, rfl, htail⟩ := Pattern.readFrom_many_finish_iff.1 hrest
    rcases htail with rfl | rfl
    · exact .inl ⟨c, cs, hc, hcs, by rw [List.append_nil]; rfl⟩
    · exact .inr ⟨_, ⟨c, cs, hc, hcs, rfl⟩, rfl⟩
  · have hfits {c : Char} {cs : List Char} (hc : isLetter c = true)
        (hcs : ∀ d ∈ cs, isWordChar d = true) {tail : List CodePoint}
        (htail : tail = [] ∨ tail = [.char '\n']) :
        ∃ c' rest, isLetter c' = true ∧
          .char c :: (cs.map CodePoint.char ++ tail) = .char c' :: rest ∧
          (Pattern.seq (.many isWordChar) .finish).ReadFrom ⟨false, rest⟩ :=
      ⟨c, _, hc, rfl, Pattern.readFrom_many_finish_iff.2 ⟨cs, tail, hcs, rfl, htail⟩⟩
    rintro (⟨c, cs, hc, hcs, h⟩ | ⟨_, ⟨c, cs, hc, hcs, rfl⟩, h⟩)
    · cases h
      have := hfits hc hcs (.inl rfl)
      rwa [List.append_nil] at this
    · cases h
      exact hfits hc hcs (.inr rfl)

/-- What fits the pattern of custom tables fits the pattern of names: its mark is a letter, and an
underscore is a word character. -/
lemma plainPattern_fits_of_custom (h : customPattern.fits t = true) :
    plainPattern.fits t = true := by
  have hletter {c : Char} (hc : isCustomMark c = true) : isLetter c = true := by
    simp only [isCustomMark, Bool.or_eq_true, beq_iff_eq] at hc
    rcases hc with rfl | rfl <;> decide
  rw [Pattern.fits_iff, customPattern, Pattern.readFrom_start_seq_iff,
    Pattern.readFrom_one_seq_iff] at h
  obtain ⟨c, behindMark, hc, hpoints, hmark⟩ := h
  obtain ⟨d, behindUnderscore, hd, hunderscore, hword⟩ := Pattern.readFrom_one_seq_iff.1 hmark
  obtain ⟨e, behindFirst, he, hfirst, hmore⟩ := Pattern.readFrom_one_seq_iff.1 hword
  obtain ⟨cs, tail, hcs, hend, htail⟩ := Pattern.readFrom_many_finish_iff.1 hmore
  obtain rfl : d = '_' := beq_iff_eq.1 hd
  have hrest : behindMark = ('_' :: e :: cs).map .char ++ tail := by
    dsimp only at hunderscore hfirst hend
    rw [hunderscore, hfirst, hend]
    rfl
  rw [Pattern.fits_iff, plainPattern, Pattern.readFrom_start_seq_iff,
    Pattern.readFrom_one_seq_iff]
  refine ⟨c, _, hletter hc, hpoints, Pattern.readFrom_many_finish_iff.2
    ⟨'_' :: e :: cs, tail, ?_, hrest, htail⟩⟩
  exact List.forall_mem_cons.2 ⟨by decide, List.forall_mem_cons.2 ⟨he, hcs⟩⟩

/-- **The alternative for custom tables adds nothing.** -/
theorem isConventional_eq (t : Text) : isConventional t = plainPattern.fits t := by
  have heither : isConventional t = true ↔
      plainPattern.fits t = true ∨ customPattern.fits t = true := by
    simp only [isConventional, pattern, Pattern.fits_iff, Pattern.readFrom_either_iff]
  rw [Bool.eq_iff_iff, heither]
  exact ⟨fun h => h.elim id plainPattern_fits_of_custom, .inl⟩

/-- **What the convention accepts**: names, with a line feed behind them or without. -/
theorem isConventional_iff : isConventional t = true ↔ IsName t ∨ IsTerminated t := by
  rw [isConventional_eq, plainPattern_fits_iff]

/-- No line feed is in a name. -/
lemma IsName.lineFeed_notMem (h : IsName t) : .char '\n' ∉ t.points := by
  obtain ⟨c, cs, hc, hcs, rfl⟩ := h
  have hletter : isLetter '\n' ≠ true := by decide
  have hword : isWordChar '\n' ≠ true := by decide
  intro hmem
  obtain ⟨d, hd, h⟩ := List.mem_map.1 hmem
  cases h
  rcases List.mem_cons.1 hd with rfl | hd
  · exact hletter hc
  · exact hword (hcs _ hd)

/-- A name with a line feed behind it is no name. -/
lemma IsTerminated.not_isName (h : IsTerminated t) : ¬ IsName t := by
  obtain ⟨name, -, rfl⟩ := h
  intro hname
  exact hname.lineFeed_notMem (List.mem_append_right _ (List.mem_singleton_self _))

/-- **The convention accepts the names and nothing else**, except for names with a line feed behind
them. -/
theorem isConventional_iff_isName : (isConventional t = true ↔ IsName t) ↔ ¬ IsTerminated t := by
  rw [isConventional_iff]
  constructor
  · intro h hterminated
    exact hterminated.not_isName (h.1 (.inr hterminated))
  · intro h
    exact or_iff_left h

/-! ### Names in paths -/

/-- A text is its own segment of a path: nothing of it is escaped. -/
def IsOwnSegment (t : Text) : Prop :=
  (Url.ofValues [.text t]).map Text.ofString = .ok ("/" ++ t)

/-- Characters are their own segment exactly when they are their own encoded form. -/
lemma isOwnSegment_ofChars_iff {cs : List Char} :
    IsOwnSegment (.ofChars cs) ↔ Url.encode cs = cs := by
  have hpath : Url.ofValues [.text (.ofChars cs)] =
      .ok (String.ofList ('/' :: Url.encode cs)) := by
    have h := Url.ofValues_ofChars [cs]
    rwa [Url.pathChars, List.flatMap_singleton] at h
  have hchars : Text.ofString (String.ofList ('/' :: Url.encode cs)) =
      .ofChars ('/' :: Url.encode cs) := congrArg Text.ofChars String.toList_ofList
  have hslash : ("/" : Text) ++ Text.ofChars cs = .ofChars ('/' :: cs) := rfl
  rw [IsOwnSegment, hpath, Except.map, hchars, hslash, Except.ok.injEq,
    Text.ofChars_injective.eq_iff, List.cons_inj_right]

/-- Word characters stand for themselves in a path. -/
lemma isUnreserved_of_isWordChar {c : Char} (h : isWordChar c = true) :
    Url.isUnreserved c = true := by
  unfold Url.isUnreserved
  unfold isWordChar isLetter at h
  simp only [Bool.or_eq_true] at h ⊢
  tauto

/-- **A name is its own segment of a path.** -/
theorem IsName.isOwnSegment (h : IsName t) : IsOwnSegment t := by
  obtain ⟨c, cs, hc, hcs, rfl⟩ := h
  have hfirst : isWordChar c = true := by
    unfold isWordChar
    rw [hc]
    rfl
  refine isOwnSegment_ofChars_iff.2 (Url.encode_eq_self ?_)
  exact List.forall_mem_cons.2 ⟨isUnreserved_of_isWordChar hfirst, fun d hd =>
    isUnreserved_of_isWordChar (hcs d hd)⟩

/-- A line feed does not stand for itself in a path. -/
lemma IsTerminated.not_isOwnSegment (h : IsTerminated t) : ¬ IsOwnSegment t := by
  obtain ⟨name, ⟨c, cs, -, -, rfl⟩, rfl⟩ := h
  have hchars : Text.ofChars (c :: cs) ++ "\n" = .ofChars (c :: cs ++ ['\n']) :=
    congrArg Text.mk List.map_append.symm
  rw [hchars, isOwnSegment_ofChars_iff]
  intro heq
  have hmem : '\n' ∈ Url.encode (c :: cs ++ ['\n']) := by
    rw [heq]
    exact List.mem_append_right _ (List.mem_singleton_self _)
  rcases (Url.encoded_encode _).isUnreserved_of_mem hmem with h | h <;> exact absurd h (by decide)

end TableName

end TableClient
