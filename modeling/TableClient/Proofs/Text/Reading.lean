import Mathlib.Tactic.Lemma
import TableClient.Text.Split
import TableClient.Text.Utf8

set_option relaxedAutoImplicit false
set_option autoImplicit false

/-!
# Texts that are read back

What is written piece by piece is read back piece by piece: parts that do not contain the separator
are what is found when they are cut apart again, and the bytes of characters spell just these
characters.

## Main results

* `TableClient.Text.cut_flatMap`, `TableClient.Text.cut_flatMap_terminated` — parts without the
  separator are found between separators, and before separators.
* `TableClient.Text.joined_append`, `TableClient.Text.split_joined` — parts that are joined, in
  groups, and split again.
* `TableClient.Text.chars?_eq_some_iff` — the texts that consist of characters.
* `TableClient.Text.Utf8.piecesFrom_encodeChar` — the bytes of a character are read as one piece.
* `TableClient.Text.Utf8.decode?_encode` — the UTF-8 form of characters is read back.
-/

namespace TableClient.Text

/-! ### Cutting -/

section Cut

variable {α : Type} [DecidableEq α] {separator : α}

/-- Without a separator there is one part. -/
lemma cut_of_notMem {part : List α} (h : separator ∉ part) : cut separator part = [part] := by
  induction part with
  | nil => rfl
  | cons a as ih =>
    obtain ⟨ha, has⟩ := not_or.1 (mt List.mem_cons.2 h)
    rw [cut, if_neg (Ne.symm ha), ih has]

/-- The part before a separator comes before the parts after it. -/
lemma cut_append_cons {part : List α} (h : separator ∉ part) (rest : List α) :
    cut separator (part ++ separator :: rest) = part :: cut separator rest := by
  induction part with
  | nil => rw [List.nil_append, cut, if_pos rfl]
  | cons a as ih =>
    obtain ⟨ha, has⟩ := not_or.1 (mt List.mem_cons.2 h)
    rw [List.cons_append, cut, if_neg (Ne.symm ha), ih has]

/-- **Parts without the separator are found between separators.** -/
theorem cut_flatMap {first : List α} {parts : List (List α)} (hfirst : separator ∉ first)
    (hparts : ∀ part ∈ parts, separator ∉ part) :
    cut separator (first ++ parts.flatMap (separator :: ·)) = first :: parts := by
  induction parts generalizing first with
  | nil => rw [List.flatMap_nil, List.append_nil, cut_of_notMem hfirst]
  | cons part parts ih =>
    obtain ⟨hpart, hrest⟩ := List.forall_mem_cons.1 hparts
    rw [List.flatMap_cons, List.cons_append, cut_append_cons hfirst, ih hpart hrest]

/-- **Parts without the separator are found before separators**, with nothing behind the last
one. -/
theorem cut_flatMap_terminated {parts : List (List α)} (h : ∀ part ∈ parts, separator ∉ part) :
    cut separator (parts.flatMap (· ++ [separator])) = parts ++ [[]] := by
  induction parts with
  | nil => rfl
  | cons part parts ih =>
    obtain ⟨hpart, hrest⟩ := List.forall_mem_cons.1 h
    rw [List.flatMap_cons, List.append_assoc, List.singleton_append, cut_append_cons hpart,
      ih hrest, List.cons_append]

end Cut

/-! ### Joining -/

/-- Three texts may be put together from either side. -/
lemma append_assoc (s t u : Text) : s ++ t ++ u = s ++ (t ++ u) :=
  congrArg Text.mk (List.append_assoc s.points t.points u.points)

/-- What stands behind a text is determined by the whole. -/
lemma append_left_cancel {s t u : Text} (h : s ++ t = s ++ u) : t = u :=
  congrArg Text.mk (List.append_cancel_left (congrArg points h))

/-- A part before others is joined to them by a separator. -/
lemma joined_cons (separator part : Text) {rest : List Text} (h : rest ≠ []) :
    joined separator (part :: rest) = part ++ separator ++ joined separator rest :=
  congrArg Text.mk (List.intercalate_cons_of_ne_nil (mt List.map_eq_nil_iff.1 h))

/-- **Parts may be joined in two groups**, which are then joined by a separator. -/
theorem joined_append (separator : Text) {parts more : List Text} (hparts : parts ≠ [])
    (hmore : more ≠ []) :
    joined separator (parts ++ more) =
      joined separator parts ++ separator ++ joined separator more := by
  induction parts with
  | nil => exact absurd rfl hparts
  | cons part parts ih =>
    rw [List.cons_append]
    cases parts with
    | nil =>
      have hpart : joined separator [part] = part := congrArg Text.mk List.intercalate_singleton
      rw [List.nil_append, joined_cons separator part hmore, hpart]
    | cons next parts =>
      rw [joined_cons separator part (by simp), ih (List.cons_ne_nil _ _),
        joined_cons separator part (List.cons_ne_nil _ _)]
      simp only [append_assoc]

/-- Lists with a separator between them are the first one and the others behind separators. -/
lemma intercalate_cons {α : Type} (separator : α) (first : List α) (parts : List (List α)) :
    List.intercalate [separator] (first :: parts) = first ++ parts.flatMap (separator :: ·) := by
  induction parts generalizing first with
  | nil => rw [List.intercalate_singleton, List.flatMap_nil, List.append_nil]
  | cons part parts ih =>
    rw [List.intercalate_cons_cons, ih, List.flatMap_cons, List.append_assoc,
      List.singleton_append, List.cons_append]

/-- **Parts without the separator are found when they are joined and split again.** -/
theorem split_joined {separator : Char} {parts : List Text} (hne : parts ≠ [])
    (h : ∀ part ∈ parts, .char separator ∉ part.points) :
    (joined (ofChars [separator]) parts).split separator = parts := by
  obtain ⟨first, rest, rfl⟩ := List.exists_cons_of_ne_nil hne
  obtain ⟨hfirst, hrest⟩ := List.forall_mem_cons.1 h
  have hcut : cut (.char separator) (first.points ++
      (rest.map points).flatMap (CodePoint.char separator :: ·)) =
      first.points :: rest.map points :=
    cut_flatMap hfirst (List.forall_mem_map.2 hrest)
  rw [split, joined, List.map_cons]
  change (cut (.char separator) (List.intercalate [.char separator] _)).map mk = _
  rw [intercalate_cons, hcut, ← List.map_cons, List.map_map]
  exact List.map_id _

/-! ### Characters -/

/-- Items that are each read back from what is written of them are read back together. -/
lemma mapM_map {α β γ : Type} {read : β → Option γ} {written : α → β} {item : α → γ}
    (h : ∀ a, read (written a) = some (item a)) (as : List α) :
    (as.map written).mapM read = some (as.map item) := by
  induction as with
  | nil => rfl
  | cons a as ih =>
    rw [List.map_cons, List.mapM_cons, h a, ih]
    rfl

/-- Items that are each read back as they are. -/
lemma mapM_map_self {α β : Type} {read : β → Option α} {written : α → β}
    (h : ∀ a, read (written a) = some a) (as : List α) : (as.map written).mapM read = some as :=
  (@mapM_map _ _ _ read written id h as).trans (congrArg some (List.map_id as))

/-- A string has characters. -/
lemma exists_ofString_eq (s : String) : ∃ cs, ofString s = ofChars cs := ⟨s.toList, rfl⟩

/-- The characters of a text are those that it was made of. -/
@[simp] lemma chars?_ofChars (cs : List Char) : (ofChars cs).chars? = some cs :=
  @mapM_map_self _ _ CodePoint.char? CodePoint.char (fun _ => rfl) cs

/-- Different characters are different texts. -/
lemma ofChars_injective : Function.Injective ofChars := by
  intro cs ds h
  have hchars := congrArg chars? h
  rw [chars?_ofChars, chars?_ofChars] at hchars
  exact Option.some.inj hchars

/-- Different strings are different texts. -/
lemma ofString_injective : Function.Injective ofString := fun _ _ h =>
  String.toList_inj.1 (ofChars_injective h)

/-- A text consists of characters exactly when it is made of them. -/
theorem chars?_eq_some_iff {t : Text} {cs : List Char} : t.chars? = some cs ↔ t = ofChars cs := by
  refine ⟨fun h => ?_, fun h => h ▸ chars?_ofChars cs⟩
  obtain ⟨points⟩ := t
  unfold chars? at h
  congr 1
  induction points generalizing cs with
  | nil =>
    cases h
    rfl
  | cons p ps ih =>
    cases p with
    | surrogate n => cases h
    | char c =>
      rw [List.mapM_cons] at h
      obtain ⟨_, hc, h⟩ := Option.bind_eq_some_iff.1 h
      obtain ⟨ds, hds, h⟩ := Option.bind_eq_some_iff.1 h
      cases hc
      cases h
      rw [ih hds, List.map_cons]

/-! ### UTF-8 -/

namespace Utf8

/-- The number of a byte. -/
lemma toNat_byte {n : Nat} (h : n < 256) : (byte n).toNat = n := by
  rw [byte, UInt8.toNat_ofNat']
  omega

/-- The number of a character is no surrogate and at most `U+10FFFF`. -/
lemma toNat_range (c : Char) : c.toNat < 0xd800 ∨ (0xdfff < c.toNat ∧ c.toNat < 0x110000) := c.valid

/-- A byte below `80` is a character by itself. -/
lemma lead_single {n : Nat} (h : n < 0x80) : lead (byte n) = .single (Char.ofNat n) := by
  rw [lead, toNat_byte (by omega)]
  simp only [h, if_true]

/-- A byte from `C2` to `DF` opens a character of two bytes. -/
lemma lead_two {n : Nat} (hlow : 0xc2 ≤ n) (hhigh : n < 0xe0) :
    lead (byte n) = .opens ⟨[byte n], n - 0xc0, 1, 0x80, 0xbf⟩ := by
  rw [lead, toNat_byte (by omega)]
  rw [if_neg (by omega), if_neg (by omega), if_pos (by omega)]

/-- A byte from `E0` to `EF` opens a character of three bytes. -/
lemma lead_three {n : Nat} (hlow : 0xe0 ≤ n) (hhigh : n < 0xf0) :
    lead (byte n) = .opens ⟨[byte n], n - 0xe0, 2, if n = 0xe0 then 0xa0 else 0x80,
      if n = 0xed then 0x9f else 0xbf⟩ := by
  rw [lead, toNat_byte (by omega)]
  rw [if_neg (by omega), if_neg (by omega), if_neg (by omega), if_pos (by omega)]

/-- A byte from `F0` to `F4` opens a character of four bytes. -/
lemma lead_four {n : Nat} (hlow : 0xf0 ≤ n) (hhigh : n < 0xf5) :
    lead (byte n) = .opens ⟨[byte n], n - 0xf0, 3, if n = 0xf0 then 0x90 else 0x80,
      if n = 0xf4 then 0x8f else 0xbf⟩ := by
  rw [lead, toNat_byte (by omega)]
  rw [if_neg (by omega), if_neg (by omega), if_neg (by omega), if_neg (by omega),
    if_pos (by omega)]

/-- The last byte of a character ends it. -/
lemma piecesFrom_last {p : Pending} {n : Nat} (hlow : p.low ≤ n) (hhigh : n ≤ p.high)
    (hn : n < 256) (howed : p.owed = 1) (rest : List UInt8) :
    piecesFrom (some p) (byte n :: rest) =
      .char (Char.ofNat (p.bits * 64 + (n - 0x80))) :: piecesFrom none rest := by
  rw [piecesFrom, toNat_byte hn]
  simp only [hlow, hhigh, howed, and_self, if_true, Nat.le_refl]

/-- A byte inside a character is taken into what is pending. -/
lemma piecesFrom_inside {p : Pending} {n : Nat} (hlow : p.low ≤ n) (hhigh : n ≤ p.high)
    (hn : n < 256) (howed : 1 < p.owed) (rest : List UInt8) :
    piecesFrom (some p) (byte n :: rest) =
      piecesFrom (some ⟨p.begun ++ [byte n], p.bits * 64 + (n - 0x80), p.owed - 1, 0x80, 0xbf⟩)
        rest := by
  rw [piecesFrom, toNat_byte hn]
  simp only [hlow, hhigh, and_self, if_true]
  rw [if_neg (by omega)]

/-- **The bytes of a character are read as one piece.**

**Proof sketch.** The first byte tells how many are owed and holds the upper bits; the ranges of the
second byte are those that leave out overlong forms, surrogates and numbers that are too large. Each
byte after it adds six bits, so that the last one completes the number of the character. -/
theorem piecesFrom_encodeChar (c : Char) (rest : List UInt8) :
    piecesFrom none (encodeChar c ++ rest) = .char c :: piecesFrom none rest := by
  have hrange := toNat_range c
  have hback := Char.ofNat_toNat c
  revert hrange hback
  unfold encodeChar
  generalize c.toNat = n
  intro hrange hback
  dsimp only
  split
  · rw [List.singleton_append, piecesFrom, lead_single (by omega), hback]
  split
  · rw [List.cons_append, List.singleton_append, piecesFrom, lead_two (by omega) (by omega)]
    dsimp only
    rw [piecesFrom_last (by simp) (by simp; omega) (by omega) rfl]
    dsimp only
    rw [show (0xc0 + n / 64 - 0xc0) * 64 + (0x80 + n % 64 - 0x80) = n by omega, hback]
  split
  · rw [List.cons_append, List.cons_append, List.singleton_append, piecesFrom,
      lead_three (by omega) (by omega)]
    dsimp only
    rw [piecesFrom_inside (by dsimp only; split <;> omega) (by dsimp only; split <;> omega)
      (by omega) (by simp)]
    dsimp only
    rw [piecesFrom_last (by simp) (by simp; omega) (by omega) rfl]
    dsimp only
    rw [show ((0xe0 + n / 4096 - 0xe0) * 64 + (0x80 + n / 64 % 64 - 0x80)) * 64 +
      (0x80 + n % 64 - 0x80) = n by omega, hback]
  · rw [List.cons_append, List.cons_append, List.cons_append, List.singleton_append, piecesFrom,
      lead_four (by omega) (by omega)]
    dsimp only
    rw [piecesFrom_inside (by dsimp only; split <;> omega) (by dsimp only; split <;> omega)
      (by omega) (by simp)]
    dsimp only
    rw [piecesFrom_inside (by simp) (by simp; omega) (by omega) (by simp)]
    dsimp only
    rw [piecesFrom_last (by simp) (by simp; omega) (by omega) rfl]
    dsimp only
    rw [show (((0xf0 + n / 262144 - 0xf0) * 64 + (0x80 + n / 4096 % 64 - 0x80)) * 64 +
      (0x80 + n / 64 % 64 - 0x80)) * 64 + (0x80 + n % 64 - 0x80) = n by omega, hback]

/-- The pieces of the bytes of characters are the characters. -/
lemma pieces_encode (cs : List Char) : pieces (encode cs) = cs.map .char := by
  unfold pieces encode
  induction cs with
  | nil => rfl
  | cons c cs ih => rw [List.flatMap_cons, piecesFrom_encodeChar, ih, List.map_cons]

/-- **The UTF-8 form of characters is read back.** -/
theorem decode?_encode (cs : List Char) : decode? (encode cs) = some cs := by
  rw [decode?, pieces_encode]
  exact @mapM_map_self _ _ Piece.char? Piece.char (fun _ => rfl) cs

/-- Nothing is replaced in the UTF-8 form of characters. -/
lemma decodeLossy_encode (cs : List Char) : decodeLossy (encode cs) = cs := by
  rw [decodeLossy, pieces_encode, List.map_map]
  exact List.map_id cs

end Utf8

end TableClient.Text
