import Mathlib.Data.List.Basic
import TableClient.Proofs.Computation
import TableClient.Proofs.Text.Reading
import TableClient.Url.Path

set_option relaxedAutoImplicit false
set_option autoImplicit false

/-!
# Paths that are read back

The encoded form of a segment is made of characters that stand for themselves and of escaped bytes,
so that no slash is in it and a path has the slashes that begin its segments and no others. Cutting
the path at its slashes and decoding the parts gives the segments back, whatever characters they
have.

## Main definitions

* `TableClient.Url.Encoded` — the form of a segment in a path.

## Main results

* `TableClient.Url.encoded_encode`, `TableClient.Url.decode?_encode` — segments have this form, and
  are read back from it.
* `TableClient.Url.count_slash_pathChars`, `TableClient.Url.splitPath?_pathChars`,
  `TableClient.Url.segments?_pathChars` — a path has one slash for each segment, and its segments
  are found between them.
* `TableClient.Url.pathChars_injective` — different segments have different paths.
* `TableClient.Url.ofValues_ofChars`, `TableClient.Url.shown_of_ofValues` — segments that consist of
  characters, and no others, have a path.
-/

namespace TableClient.Url

/-! ### The form of a segment -/

/-- An upper-case hexadecimal digit. -/
def IsHexDigit (c : Char) : Prop := ('0' ≤ c ∧ c ≤ '9') ∨ ('A' ≤ c ∧ c ≤ 'F')

/-- The form of a segment in a path: characters that stand for themselves, and percent signs with
two hexadecimal digits each. -/
inductive Encoded : List Char → Prop where
  | nil : Encoded []
  | unreserved {c : Char} {cs : List Char} : isUnreserved c = true → Encoded cs → Encoded (c :: cs)
  | escape {a b : Char} {cs : List Char} :
    IsHexDigit a → IsHexDigit b → Encoded cs → Encoded ('%' :: a :: b :: cs)

/-- One encoded form after the other is an encoded form. -/
lemma Encoded.append {cs ds : List Char} (hcs : Encoded cs) (hds : Encoded ds) :
    Encoded (cs ++ ds) := by
  induction hcs with
  | nil => exact hds
  | unreserved hc _ ih => exact .unreserved hc ih
  | escape ha hb _ ih => exact .escape ha hb ih

/-- A hexadecimal digit stands for itself. -/
lemma isUnreserved_of_isHexDigit {c : Char} (h : IsHexDigit c) : isUnreserved c = true := by
  have hletter (h : c ≤ 'F') : c ≤ 'Z' := Char.le_trans h (by decide)
  unfold isUnreserved
  rcases h with ⟨hlow, hhigh⟩ | ⟨hlow, hhigh⟩
  · simp [hlow, hhigh]
  · simp [hlow, hletter hhigh]

/-- An encoded form has nothing but characters that stand for themselves and percent signs. -/
lemma Encoded.isUnreserved_of_mem {cs : List Char} (h : Encoded cs) {c : Char} (hc : c ∈ cs) :
    isUnreserved c = true ∨ c = '%' := by
  induction h with
  | nil => cases hc
  | unreserved hd _ ih =>
    rcases List.mem_cons.1 hc with rfl | hc
    · exact .inl hd
    · exact ih hc
  | escape ha hb _ ih =>
    rcases List.mem_cons.1 hc with rfl | hc
    · exact .inr rfl
    rcases List.mem_cons.1 hc with rfl | hc
    · exact .inl (isUnreserved_of_isHexDigit ha)
    rcases List.mem_cons.1 hc with rfl | hc
    · exact .inl (isUnreserved_of_isHexDigit hb)
    · exact ih hc

/-- No slash is in an encoded form. -/
lemma Encoded.slash_notMem {cs : List Char} (h : Encoded cs) : '/' ∉ cs := by
  intro hmem
  rcases h.isUnreserved_of_mem hmem with h | h <;> exact absurd h (by decide)

/-! ### Bytes -/

/-- The digit of a number below 16 is a hexadecimal digit. -/
lemma isHexDigit_hexDigit : ∀ d < 16, IsHexDigit (hexDigit d) := by
  unfold IsHexDigit
  decide

/-- The digit of a number below 16 has its value. -/
lemma hexValue?_hexDigit : ∀ d < 16, hexValue? (hexDigit d) = some d := by
  decide

/-- The two digits of a byte are digits of numbers below 16. -/
lemma nibbles_lt (b : UInt8) : b.toNat / 16 < 16 ∧ b.toNat % 16 < 16 := by
  have := b.toNat_lt
  omega

/-- Escaped bytes are an encoded form. -/
lemma encoded_escapes (bs : List UInt8) : Encoded (bs.flatMap encodeByte) := by
  induction bs with
  | nil => exact .nil
  | cons b bs ih =>
    obtain ⟨hhi, hlo⟩ := nibbles_lt b
    exact .escape (isHexDigit_hexDigit _ hhi) (isHexDigit_hexDigit _ hlo) ih

/-- Escaped bytes are read back before what comes after them. -/
lemma decodeBytes?_escapes (bs : List UInt8) (rest : List Char) :
    decodeBytes? (bs.flatMap encodeByte ++ rest) = (decodeBytes? rest).map (bs ++ ·) := by
  induction bs with
  | nil => simp
  | cons b bs ih =>
    obtain ⟨hhi, hlo⟩ := nibbles_lt b
    have hbyte : Text.Utf8.byte (b.toNat / 16 * 16 + b.toNat % 16) = b := by
      rw [Nat.div_add_mod']
      exact UInt8.ofNat_toNat
    change decodeBytes? ('%' :: hexDigit _ :: hexDigit _ :: (bs.flatMap encodeByte ++ rest)) = _
    rw [decodeBytes?, hexValue?_hexDigit _ hhi, hexValue?_hexDigit _ hlo, ih]
    cases decodeBytes? rest with
    | none => rfl
    | some more => simp [hbyte]

/-! ### Characters -/

/-- A character that stands for itself is one of ASCII and no percent sign. -/
lemma unreserved_ascii {c : Char} (h : isUnreserved c = true) : c.toNat < 0x80 ∧ c ≠ '%' := by
  constructor
  · have hle {d : Char} (hc : c ≤ d) (hd : d.toNat < 0x80) : c.toNat < 0x80 :=
      Nat.lt_of_le_of_lt hc hd
    simp only [isUnreserved, Bool.or_eq_true, Bool.and_eq_true, decide_eq_true_iff, beq_iff_eq]
      at h
    obtain ((((((⟨-, h⟩ | ⟨-, h⟩) | ⟨-, h⟩) | rfl) | rfl) | rfl) | rfl) := h
    · exact hle h (by decide)
    · exact hle h (by decide)
    · exact hle h (by decide)
    all_goals decide
  · rintro rfl
    exact absurd h (by decide)

/-- A character in encoded form is read back as its bytes, before what comes after it. -/
lemma decodeBytes?_encodeChar (c : Char) (rest : List Char) :
    decodeBytes? (encodeChar c ++ rest) =
      (decodeBytes? rest).map (Text.Utf8.encodeChar c ++ ·) := by
  unfold encodeChar
  split
  · rename_i hc
    obtain ⟨hascii, hpercent⟩ := unreserved_ascii hc
    have hbytes : Text.Utf8.encodeChar c = [Text.Utf8.byte c.toNat] := if_pos hascii
    rw [hbytes, List.singleton_append, decodeBytes?, if_pos hc]
    · rfl
    · rintro _ _ _ rfl
      exact absurd rfl hpercent
  · exact decodeBytes?_escapes _ rest

/-- The encoded form of characters is an encoded form. -/
theorem encoded_encode (cs : List Char) : Encoded (encode cs) := by
  unfold encode
  induction cs with
  | nil => exact .nil
  | cons c cs ih =>
    rw [List.flatMap_cons]
    refine Encoded.append ?_ ih
    unfold encodeChar
    split
    · rename_i hc
      exact .unreserved hc .nil
    · exact encoded_escapes _

/-- Characters that stand for themselves are their own encoded form. -/
lemma encode_eq_self {cs : List Char} (h : ∀ c ∈ cs, isUnreserved c = true) : encode cs = cs := by
  unfold encode
  induction cs with
  | nil => rfl
  | cons c cs ih =>
    obtain ⟨hc, hcs⟩ := List.forall_mem_cons.1 h
    rw [List.flatMap_cons, encodeChar, if_pos hc, ih hcs, List.singleton_append]

/-- **Characters are read back from their encoded form.** -/
theorem decode?_encode (cs : List Char) : decode? (encode cs) = some cs := by
  have hbytes : decodeBytes? (encode cs) = some (Text.Utf8.encode cs) := by
    unfold encode Text.Utf8.encode
    induction cs with
    | nil => rfl
    | cons c cs ih => rw [List.flatMap_cons, decodeBytes?_encodeChar, ih, List.flatMap_cons]; rfl
  rw [decode?, hbytes]
  exact Text.Utf8.decode?_encode cs

/-! ### Paths -/

/-- **A path has one slash for each segment.** -/
theorem count_slash_pathChars (css : List (List Char)) :
    (pathChars css).count '/' = css.length := by
  unfold pathChars
  induction css with
  | nil => rfl
  | cons cs css ih =>
    rw [List.flatMap_cons, List.count_append, List.count_cons_self, ih,
      List.count_eq_zero_of_not_mem (encoded_encode cs).slash_notMem, List.length_cons]
    omega

/-- **The segments of a path are found between its slashes.** -/
theorem splitPath?_pathChars (css : List (List Char)) :
    splitPath? (pathChars css) = some (css.map encode) := by
  cases css with
  | nil => rfl
  | cons cs css =>
    have hno (ds : List Char) : '/' ∉ encode ds := (encoded_encode ds).slash_notMem
    have hparts : ∀ part ∈ css.map encode, '/' ∉ part := List.forall_mem_map.2 fun ds _ => hno ds
    have hcut := Text.cut_flatMap (hno cs) hparts
    rw [List.flatMap_map] at hcut
    exact congrArg some hcut

/-- **A path is read back as its segments.** -/
theorem segments?_pathChars (css : List (List Char)) :
    segments? (pathChars css) = some (css.map Text.ofChars) := by
  unfold segments?
  rw [splitPath?_pathChars]
  refine Text.mapM_map (fun cs => ?_) css
  rw [decode?_encode]
  rfl

/-- Different segments have different paths. -/
theorem pathChars_injective : Function.Injective pathChars := by
  intro css dss h
  have hsegments := congrArg segments? h
  rw [segments?_pathChars, segments?_pathChars] at hsegments
  exact List.map_injective_iff.2 Text.ofChars_injective (Option.some.inj hsegments)

/-- The values that can be segments: those that have a text, which consists of characters. -/
lemma segmentChars_eq_ok_iff {v : Value} {cs : List Char} :
    segmentChars v = .ok cs ↔ v.showFault? maxNesting = none ∧ v.shown = .ofChars cs := by
  rw [← Text.chars?_eq_some_iff, segmentChars]
  cases v.showFault? maxNesting with
  | some f => simp
  | none => cases v.shown.chars? <;> simp

/-- Segments that consist of characters have a path. -/
theorem ofValues_ofChars (css : List (List Char)) :
    ofValues (css.map fun cs => .text (.ofChars cs)) = .ok (String.ofList (pathChars css)) := by
  have hsegments : (css.map fun cs => Value.text (.ofChars cs)).mapM segmentChars = .ok css := by
    rw [mapM_eq_ok_iff, List.forall₂_map_left_iff, List.forall₂_same]
    exact fun cs _ => segmentChars_eq_ok_iff.2 ⟨rfl, rfl⟩
  rw [ofValues, hsegments]
  rfl

/-- Values that have a path show as segments that consist of characters. -/
theorem shown_of_ofValues {segments : List Value} {path : String}
    (h : ofValues segments = .ok path) :
    ∃ css : List (List Char), segments.map Value.shown = css.map Text.ofChars ∧
      path = String.ofList (pathChars css) := by
  obtain ⟨css, hcss, hpath⟩ := map_eq_ok_iff.1 h
  refine ⟨css, ?_, hpath.symm⟩
  clear hpath h
  rw [mapM_eq_ok_iff] at hcss
  induction hcss with
  | nil => rfl
  | cons hfirst _ ih =>
    rw [List.map_cons, List.map_cons, (segmentChars_eq_ok_iff.1 hfirst).2, ih]

end TableClient.Url
