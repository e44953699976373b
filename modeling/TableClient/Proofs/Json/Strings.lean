import Mathlib.Tactic.Lemma
import Mathlib.Tactic.SplitIfs
import TableClient.Json.Reader
import TableClient.Json.Writer

set_option relaxedAutoImplicit false
set_option autoImplicit false

/-!
# Strings that are read back

A JSON string spells each character of a text by itself, by an escape of one letter or by its
UTF-16 units in hexadecimal digits. An escaped character is read as one piece, or as two pieces that
make a pair, whatever stands around it; so a text of characters is read back from its string. Two
surrogates that make a pair and meet in a text are read back as the character they stand for. Only
printable ASCII characters stand in the string.

## Main definitions

* `TableClient.Json.paired` — what is read back of a text.
* `TableClient.Json.Same` — pieces that spell the same wherever they stand.
* `TableClient.Json.Spells` — characters inside a string that spell pieces.
* `TableClient.Json.IsPlainAscii` — the printable ASCII characters.

## Main results

* `TableClient.Json.joinPieces_append_congr` — what comes before pieces does not change what they
  spell.
* `TableClient.Json.spells_charEscape` — an escaped character spells the character.
* `TableClient.Json.readString_stringChars` — a text is read back.
* `TableClient.Json.plain_stringChars` — a string has printable ASCII characters only.
-/

namespace TableClient.Json

/-! ### Hexadecimal digits -/

/-- A digit is read as its value. -/
lemma hexValue?_hexDigit {d : Nat} (h : d < 16) : hexValue? (Text.hexDigit d) = some d := by
  revert d
  decide

/-- The four digits of a unit. -/
lemma hexPadded_four (n : Nat) :
    Text.hexPadded 4 n =
      [Text.hexDigit (n / 16 / 16 / 16 % 16), Text.hexDigit (n / 16 / 16 % 16),
        Text.hexDigit (n / 16 % 16), Text.hexDigit (n % 16)] := rfl

/-- A unit is read from its four digits. -/
lemma unit?_hexDigits {n : Nat} (h : n < 0x10000) :
    unit? (Text.hexDigit (n / 16 / 16 / 16 % 16)) (Text.hexDigit (n / 16 / 16 % 16))
      (Text.hexDigit (n / 16 % 16)) (Text.hexDigit (n % 16)) = some n := by
  have hvalue (m : Nat) : hexValue? (Text.hexDigit (m % 16)) = some (m % 16) :=
    hexValue?_hexDigit (Nat.mod_lt m (by decide))
  unfold unit?
  simp only [hvalue]
  show some _ = some n
  congr 1
  omega

/-! ### Escaped characters -/

/-- The pieces of a string with others in front, and what follows the string. -/
def pushPieces (ps : List Piece) (found : List Piece × List Char) : List Piece × List Char :=
  (ps ++ found.1, found.2)

/-- Pieces that are put in front one after the other are put in front together. -/
lemma map_pushPieces (ps qs : List Piece) (found : Option (List Piece × List Char)) :
    (found.map (pushPieces qs)).map (pushPieces ps) = found.map (pushPieces (ps ++ qs)) := by
  cases found with
  | none => rfl
  | some found => simp [pushPieces]

/-- A unit that is spelled by its number is read as this unit. -/
lemma readPieces_unitEscape {n : Nat} (h : n < 0x10000) (tail : List Char) :
    readPieces (unitEscape n ++ tail) = (readPieces tail).map (pushPieces [.unit n]) := by
  rw [unitEscape, hexPadded_four]
  simp only [List.cons_append, List.nil_append, readPieces, unit?_hexDigits h, Option.bind_some]
  rfl

/-- An escape of one letter is read as the character that it stands for. -/
lemma readPieces_letter {letter c : Char} (hletter : letter ≠ 'u')
    (h : escaped? letter = some c) (tail : List Char) :
    readPieces ('\\' :: letter :: tail) = (readPieces tail).map (pushPieces [.char c]) := by
  rw [readPieces, h]
  · rfl
  · exact fun _ _ _ _ _ hu _ => hletter hu

/-- A printable character that is neither quote nor backslash is read as itself. -/
lemma readPieces_self {c : Char} (hquote : c ≠ '"') (hbackslash : c ≠ '\\')
    (h : 0x20 ≤ c.toNat) (tail : List Char) :
    readPieces (c :: tail) = (readPieces tail).map (pushPieces [.char c]) := by
  have hplain : ¬ (c.toNat < 0x20 ∨ c = '\\') := not_or.2 ⟨Nat.not_lt.2 h, hbackslash⟩
  rw [readPieces, if_neg hplain]
  · rfl
  · exact hquote
  · exact fun _ _ _ _ _ heq _ => hbackslash heq
  · exact fun _ _ heq _ => hbackslash heq

/-! ### What pieces spell -/

/-- The piece that a code point is. -/
def piece : CodePoint → Piece
  | .char c => .char c
  | .surrogate n => .unit (CodePoint.surrogateNumber n)

/-- A text with each pair of surrogates that meet in it replaced by the character they stand for. -/
def paired (t : Text) : Text := ⟨joinPieces (t.points.map piece)⟩

/-- Characters stay as they are. -/
lemma joinPieces_chars (cs : List Char) : joinPieces (cs.map .char) = cs.map .char := by
  induction cs with
  | nil => rfl
  | cons c cs ih => exact congrArg (CodePoint.char c :: ·) ih

/-- A text of characters has no surrogates that meet. -/
lemma paired_ofChars (cs : List Char) : paired (.ofChars cs) = .ofChars cs := by
  rw [paired, Text.ofChars, List.map_map]
  exact congrArg Text.mk (joinPieces_chars cs)

/-- Whether pieces begin with the second half of a pair. -/
def beginsLow : List Piece → Bool
  | .unit n :: _ => isLowSurrogate n
  | _ => false

/-- A unit makes no pair with what follows it, unless that begins with the second half of one. -/
lemma joinPieces_unit {n : Nat} {ps : List Piece} (h : beginsLow ps = false) :
    joinPieces (.unit n :: ps) = unitPoint n :: joinPieces ps := by
  match ps with
  | [] => rfl
  | .char _ :: _ => rfl
  | .unit m :: ps =>
    have hlow : isLowSurrogate m = false := h
    rw [joinPieces, hlow, Bool.and_false, if_neg Bool.false_ne_true]

/-- Two endings that spell the same, and do not begin with the second half of a pair, spell the same
behind anything. -/
lemma joinPieces_append_congr {ps qs : List Piece} (hp : beginsLow ps = false)
    (hq : beginsLow qs = false) (h : joinPieces ps = joinPieces qs) (before : List Piece) :
    joinPieces (before ++ ps) = joinPieces (before ++ qs) := by
  induction before using joinPieces.induct with
  | case1 => exact h
  | case2 c before ih => exact congrArg (CodePoint.char c :: ·) ih
  | case3 n m before hpair ih =>
    simp only [List.cons_append, joinPieces, hpair, if_true, ih]
  | case4 n m before hpair ih =>
    rw [List.cons_append, List.cons_append] at ih
    simp only [List.cons_append, joinPieces, hpair, Bool.false_eq_true, if_false, ih]
  | case5 n before hother ih =>
    match before with
    | [] => exact (joinPieces_unit hp).trans ((congrArg _ h).trans (joinPieces_unit hq).symm)
    | .char c :: before => exact congrArg (unitPoint n :: ·) ih
    | .unit m :: before => exact absurd rfl (hother m before)

/-- Two lists of pieces spell the same wherever they stand. -/
def Same (ps qs : List Piece) : Prop :=
  ∀ before after, joinPieces (before ++ (ps ++ after)) = joinPieces (before ++ (qs ++ after))

/-- Pieces spell the same as a character wherever they stand, if they do where nothing comes before
them and begin with no second half of a pair. -/
lemma same_char {p : Piece} {ps : List Piece} {c : Char} (hlow : beginsLow [p] = false)
    (h : ∀ after, joinPieces (p :: ps ++ after) = .char c :: joinPieces after) :
    Same (p :: ps) [.char c] :=
  fun before after => joinPieces_append_congr (by cases p <;> exact hlow) rfl (h after) before

/-! ### Escaped code points -/

/-- Characters inside a string spell pieces: whatever follows them, they are read as pieces that
spell the same. -/
def Spells (cs : List Char) (qs : List Piece) : Prop :=
  ∃ ps, (∀ tail, readPieces (cs ++ tail) = (readPieces tail).map (pushPieces ps)) ∧ Same ps qs

/-- Nothing spells nothing. -/
lemma spells_nil : Spells [] [] := by
  refine ⟨[], fun tail => ?_, fun _ _ => rfl⟩
  rw [List.nil_append]
  cases readPieces tail <;> rfl

/-- What is spelled one after the other is spelled together. -/
lemma Spells.append {cs ds : List Char} {qs qs' : List Piece} (h : Spells cs qs)
    (h' : Spells ds qs') : Spells (cs ++ ds) (qs ++ qs') := by
  obtain ⟨ps, hread, hsame⟩ := h
  obtain ⟨ps', hread', hsame'⟩ := h'
  refine ⟨ps ++ ps', fun tail => ?_, fun before after => ?_⟩
  · rw [List.append_assoc, hread, hread', map_pushPieces]
  · rw [List.append_assoc, hsame, ← List.append_assoc, hsame', List.append_assoc,
      ← List.append_assoc qs]

/-- An escape of one letter spells its character. -/
lemma spells_letter {letter c : Char} (hletter : letter ≠ 'u') (h : escaped? letter = some c) :
    Spells ['\\', letter] [.char c] :=
  ⟨[.char c], readPieces_letter hletter h, fun _ _ => rfl⟩

/-- The number of a character is no surrogate. -/
lemma not_surrogate (c : Char) :
    isHighSurrogate c.toNat = false ∧ isLowSurrogate c.toNat = false := by
  have hvalid : c.toNat < 0xd800 ∨ 0xdfff < c.toNat ∧ c.toNat < 0x110000 := c.valid
  simp only [isHighSurrogate, isLowSurrogate, Bool.and_eq_false_iff, decide_eq_false_iff_not]
  omega

/-- The unit of a character up to `U+FFFF` spells it. -/
lemma spells_unit {c : Char} (h : c.toNat < 0x10000) : Spells (unitEscape c.toNat) [.char c] := by
  obtain ⟨hhigh, hlow⟩ := not_surrogate c
  have hpoint : unitPoint c.toNat = .char c := by
    rw [unitPoint, hhigh, hlow, Bool.or_self, if_neg Bool.false_ne_true, Char.ofNat_toNat]
  refine ⟨[.unit c.toNat], readPieces_unitEscape h, same_char hlow fun after => ?_⟩
  -- a unit that follows makes no pair with this one
  cases after with
  | nil => simp [joinPieces, hpoint]
  | cons q after => cases q <;> simp [joinPieces, hpoint, hhigh]

/-- The pair of a character above `U+FFFF` spells it. -/
lemma spells_pair {c : Char} (h : 0x10000 ≤ c.toNat) :
    Spells (unitEscape (0xd800 + (c.toNat - 0x10000) / 0x400) ++
      unitEscape (0xdc00 + (c.toNat - 0x10000) % 0x400)) [.char c] := by
  have hvalid : c.toNat < 0xd800 ∨ 0xdfff < c.toNat ∧ c.toNat < 0x110000 := c.valid
  generalize hhigh : 0xd800 + (c.toNat - 0x10000) / 0x400 = high
  generalize hlow : 0xdc00 + (c.toNat - 0x10000) % 0x400 = low
  refine ⟨[.unit high, .unit low], fun tail => ?_, same_char ?_ fun after => ?_⟩
  · rw [List.append_assoc, readPieces_unitEscape (by omega), readPieces_unitEscape (by omega),
      map_pushPieces]
    rfl
  · simp only [beginsLow, isLowSurrogate, Bool.and_eq_false_iff, decide_eq_false_iff_not]
    omega
  · have hpair : (isHighSurrogate high && isLowSurrogate low) = true := by
      simp only [isHighSurrogate, isLowSurrogate, Bool.and_eq_true, decide_eq_true_eq]
      omega
    have hnumber : 0x10000 + (high - 0xd800) * 0x400 + (low - 0xdc00) = c.toNat := by omega
    simp [joinPieces, hpair, hnumber]

/-- **An escaped character spells the character.** -/
theorem spells_charEscape (c : Char) : Spells (charEscape c) [.char c] := by
  unfold charEscape
  split_ifs with hquote hbackslash hline hreturn htab hback hfeed hself
  · subst hquote
    exact spells_letter (by decide) rfl
  · subst hbackslash
    exact spells_letter (by decide) rfl
  · subst hline
    exact spells_letter (by decide) rfl
  · subst hreturn
    exact spells_letter (by decide) rfl
  · subst htab
    exact spells_letter (by decide) rfl
  · obtain rfl : c = Char.ofNat 0x08 := by rw [← hback, Char.ofNat_toNat]
    exact spells_letter (by decide) rfl
  · obtain rfl : c = Char.ofNat 0x0c := by rw [← hfeed, Char.ofNat_toNat]
    exact spells_letter (by decide) rfl
  · exact ⟨[.char c], readPieces_self hquote hbackslash hself.1, fun _ _ => rfl⟩
  · unfold units
    dsimp only
    split
    · rw [List.flatMap_singleton]
      exact spells_unit ‹_›
    · rw [List.flatMap_cons, List.flatMap_singleton]
      exact spells_pair (Nat.not_lt.1 ‹_›)

/-- An escaped code point spells its piece. -/
lemma spells_pointEscape (p : CodePoint) : Spells (pointEscape p) [piece p] := by
  cases p with
  | char c => exact spells_charEscape c
  | surrogate n =>
    have hn : CodePoint.surrogateNumber n < 0x10000 := by
      have := n.isLt
      unfold CodePoint.surrogateNumber
      omega
    exact ⟨_, readPieces_unitEscape hn, fun _ _ => rfl⟩

/-! ### Strings -/

/-- The inside of a string spells its text. -/
lemma spells_flatMap (points : List CodePoint) :
    Spells (points.flatMap pointEscape) (points.map piece) := by
  induction points with
  | nil => exact spells_nil
  | cons p points ih => exact (spells_pointEscape p).append ih

/-- The string of a text begins and ends with a quote. -/
lemma stringChars_append (t : Text) (rest : List Char) :
    stringChars t ++ rest = '"' :: (t.points.flatMap pointEscape ++ '"' :: rest) := by
  simp [stringChars]

/-- **A text is read back from its string**, whatever follows it. Surrogates that meet are read as
the character they stand for. -/
theorem readString_stringChars (t : Text) (rest : List Char) :
    readString (t.points.flatMap pointEscape ++ '"' :: rest) = .ok (paired t, rest) := by
  obtain ⟨ps, hread, hsame⟩ := spells_flatMap t.points
  have hend : readPieces ('"' :: rest) = some ([], rest) := rfl
  have hpoints : joinPieces (ps ++ []) = joinPieces (t.points.map piece) := by
    have hjoined := hsame [] []
    rwa [List.nil_append, List.nil_append, List.append_nil (t.points.map piece)] at hjoined
  rw [readString, hread, hend]
  show Except.ok (Text.mk (joinPieces (ps ++ [])), rest) = _
  rw [hpoints, paired]

/-! ### Printable characters -/

/-- The printable ASCII characters. -/
def IsPlainAscii (c : Char) : Prop := 0x20 ≤ c.toNat ∧ c.toNat ≤ 0x7e

instance (c : Char) : Decidable (IsPlainAscii c) := inferInstanceAs (Decidable (_ ∧ _))

/-- Hexadecimal digits are printable. -/
lemma plain_hexDigit {d : Nat} (h : d < 16) : IsPlainAscii (Text.hexDigit d) := by
  revert d
  decide

/-- A unit is spelled by printable characters. -/
lemma plain_unitEscape (n : Nat) : ∀ c ∈ unitEscape n, IsPlainAscii c := by
  have hdigit (m : Nat) : IsPlainAscii (Text.hexDigit (m % 16)) :=
    plain_hexDigit (Nat.mod_lt m (by decide))
  rw [unitEscape, hexPadded_four]
  simp only [List.forall_mem_cons, hdigit, List.not_mem_nil, false_imp_iff, implies_true, and_true]
  decide

/-- Two printable characters are printable. -/
lemma plain_pair {c d : Char} (hc : IsPlainAscii c) (hd : IsPlainAscii d) :
    ∀ e ∈ [c, d], IsPlainAscii e :=
  List.forall_mem_cons.2 ⟨hc, List.forall_mem_singleton.2 hd⟩

/-- A character is escaped by printable characters. -/
lemma plain_charEscape (c : Char) : ∀ d ∈ charEscape c, IsPlainAscii d := by
  unfold charEscape
  split_ifs with _ _ _ _ _ _ _ hself
  · exact plain_pair (by decide) (by decide)
  · exact plain_pair (by decide) (by decide)
  · exact plain_pair (by decide) (by decide)
  · exact plain_pair (by decide) (by decide)
  · exact plain_pair (by decide) (by decide)
  · exact plain_pair (by decide) (by decide)
  · exact plain_pair (by decide) (by decide)
  · intro d hd
    obtain rfl := List.mem_singleton.1 hd
    exact hself
  · intro d hd
    obtain ⟨n, -, hn⟩ := List.mem_flatMap.1 hd
    exact plain_unitEscape n d hn

/-- **A string has printable ASCII characters only.** -/
theorem plain_stringChars (t : Text) : ∀ c ∈ stringChars t, IsPlainAscii c := by
  have hpoint (p : CodePoint) : ∀ c ∈ pointEscape p, IsPlainAscii c := by
    cases p with
    | char c => exact plain_charEscape c
    | surrogate n => exact plain_unitEscape _
  intro c hc
  rw [stringChars, List.cons_append, List.mem_cons, List.mem_append, List.mem_singleton,
    List.mem_flatMap] at hc
  rcases hc with rfl | ⟨p, -, hp⟩ | rfl
  · decide
  · exact hpoint p c hp
  · decide

end TableClient.Json
