import TableClient.Proofs.Url.Path

set_option relaxedAutoImplicit false
set_option autoImplicit false

/-!
# Dot segments

In a path a segment of one dot means the place where one is, and a segment of two dots the place
above it. Whoever sends a request takes such segments out first, from left to right, so that the
request goes to another place than its path says. This module has the procedure that takes them out,
what it does to a path that is made of segments, and the paths that it leaves as they are: those
without a dot segment, whatever stands above them.

## Main definitions

* `TableClient.Url.resolved` — a path without its dot segments.
* `TableClient.Url.follow`, `TableClient.Url.keptParts` — what is left of the segments of a path.
* `TableClient.Url.IsDots` — the dot segments.
* `TableClient.Url.IsConfined` — a path stays where it is.

## Main results

* `TableClient.Url.resolveFrom_joined` — what is left of a path that is made of segments.
* `TableClient.Url.resolved_joined_eq_self_iff` — the paths that are left as they are.
* `TableClient.Url.isConfined_pathChars_iff` — the paths of segments that stay where they are.
* `TableClient.Url.resolved_dots` — where the path of a dot segment behind another segment leads.
-/

namespace TableClient.Url

/-! ### Taking dot segments out -/

/-- A path without its last segment and the slash before it. -/
def dropSegment (path : List Char) : List Char :=
  ((path.reverse.dropWhile (· != '/')).drop 1).reverse

/-- Takes the dot segments out of a path, behind the part of it that is kept already. A dot segment
at the end leaves its slash. -/
def resolveFrom (kept : List Char) : List Char → List Char
  | [] => kept
  -- dot segments that no slash stands before
  | '.' :: '.' :: '/' :: rest => resolveFrom kept rest
  | '.' :: '/' :: rest => resolveFrom kept rest
  | '/' :: '.' :: '/' :: rest => resolveFrom kept ('/' :: rest)
  | ['/', '.'] => resolveFrom kept ['/']
  | '/' :: '.' :: '.' :: '/' :: rest => resolveFrom (dropSegment kept) ('/' :: rest)
  | ['/', '.', '.'] => resolveFrom (dropSegment kept) ['/']
  | ['.'] => kept
  | ['.', '.'] => kept
  -- any other segment, with the slash before it if there is one
  | c :: rest => resolveFrom (kept ++ c :: rest.takeWhile (· != '/')) (rest.dropWhile (· != '/'))
termination_by path => path.length
decreasing_by
  all_goals simp only [List.length_cons, List.length_nil]
  all_goals try omega
  have := (List.dropWhile_suffix (· != '/') (l := rest)).length_le
  omega

/-- A path without its dot segments. -/
def resolved (path : List Char) : List Char := resolveFrom [] path

/-! ### Segments -/

/-- A segment of one dot or two. -/
def IsDots (part : List Char) : Prop := part = ['.'] ∨ part = ['.', '.']

instance : DecidablePred IsDots := fun part =>
  inferInstanceAs (Decidable (part = ['.'] ∨ part = ['.', '.']))

/-- A path that is made of segments. -/
def joined (parts : List (List Char)) : List Char := parts.flatMap ('/' :: ·)

/-- Where a segment leads from a place. -/
def follow (kept : List (List Char)) (part : List Char) : List (List Char) :=
  if part = ['.'] then kept else if part = ['.', '.'] then kept.dropLast else kept ++ [part]

/-- What is left of the segments of a path behind those that are kept already. -/
def keptParts (kept : List (List Char)) : List (List Char) → List (List Char)
  | [] => kept
  | [part] => follow kept part ++ if IsDots part then [[]] else []
  | part :: next :: parts => keptParts (follow kept part) (next :: parts)

/-- Segments have no slash in them. -/
def Parted (parts : List (List Char)) : Prop := ∀ part ∈ parts, '/' ∉ part

variable {kept parts : List (List Char)} {part : List Char}

@[simp] lemma joined_append (parts more : List (List Char)) :
    joined (parts ++ more) = joined parts ++ joined more := List.flatMap_append

@[simp] lemma joined_cons (part : List Char) (parts : List (List Char)) :
    joined (part :: parts) = '/' :: (part ++ joined parts) := rfl

@[simp] lemma joined_nil : joined [] = [] := rfl

lemma parted_nil : Parted [] := List.forall_mem_nil _

/-- Paths of different segments are different. -/
lemma joined_injective {more : List (List Char)} (h : Parted parts) (hmore : Parted more)
    (heq : joined parts = joined more) : parts = more := by
  have hcut {parts : List (List Char)} (h : Parted parts) :
      Text.cut '/' (joined parts) = [] :: parts := Text.cut_flatMap List.not_mem_nil h
  have hparts := congrArg (Text.cut '/') heq
  rw [hcut h, hcut hmore] at hparts
  exact List.tail_eq_of_cons_eq hparts

/-- The last segment of a path that is made of segments is dropped. -/
lemma dropSegment_joined (h : Parted kept) : dropSegment (joined kept) = joined kept.dropLast := by
  rcases List.eq_nil_or_concat' kept with rfl | ⟨front, last, rfl⟩
  · rfl
  · have hlast : ∀ c ∈ last.reverse, (c != '/') = true := by
      intro c hc
      refine bne_iff_ne.2 ?_
      rintro rfl
      exact h last (by simp) (List.mem_reverse.1 hc)
    rw [List.dropLast_concat, dropSegment, joined_append, joined_cons, joined_nil, List.append_nil,
      List.reverse_append, List.reverse_cons, List.append_assoc,
      List.dropWhile_append_of_pos hlast]
    simp

/-- A segment that is no dot segment is kept. -/
lemma resolveFrom_segment (hslash : '/' ∉ part) (hdots : ¬ IsDots part) (kept : List Char)
    {rest : List Char} (hrest : rest = [] ∨ ∃ more, rest = '/' :: more) :
    resolveFrom kept ('/' :: (part ++ rest)) = resolveFrom (kept ++ '/' :: part) rest := by
  have hpart : ∀ c ∈ part, (c != '/') = true := fun c hc =>
    bne_iff_ne.2 fun h => hslash (h ▸ hc)
  have htake : (part ++ rest).takeWhile (· != '/') = part := by
    rw [List.takeWhile_append_of_pos hpart]
    rcases hrest with rfl | ⟨more, rfl⟩ <;> simp
  have hdrop : (part ++ rest).dropWhile (· != '/') = rest := by
    rw [List.dropWhile_append_of_pos hpart]
    rcases hrest with rfl | ⟨more, rfl⟩ <;> simp
  -- what begins with a dot segment has it as its first segment
  have hother (dots more : List Char) (hbegin : (dots ++ more).takeWhile (· != '/') = dots)
      (h : IsDots dots) : part ++ rest ≠ dots ++ more := by
    intro heq
    rw [← heq, htake] at hbegin
    exact hdots (hbegin ▸ h)
  rw [resolveFrom, htake, hdrop]
  · exact nofun
  · exact nofun
  · exact fun more _ => hother ['.'] ('/' :: more) rfl (.inl rfl)
  · exact fun _ => hother ['.'] [] rfl (.inl rfl)
  · exact fun more _ => hother ['.', '.'] ('/' :: more) rfl (.inr rfl)
  · exact fun _ => hother ['.', '.'] [] rfl (.inr rfl)
  · exact nofun
  · exact nofun

/-- Any other segment leads down. -/
lemma follow_of_not_dots (h : ¬ IsDots part) (kept : List (List Char)) :
    follow kept part = kept ++ [part] := by
  unfold follow
  rw [if_neg fun hone => h (.inl hone), if_neg fun htwo => h (.inr htwo)]

/-- A segment with nothing behind it. -/
lemma resolveFrom_last (hkept : Parted kept) (hslash : '/' ∉ part) :
    resolveFrom (joined kept) ('/' :: part) =
      joined (follow kept part ++ if IsDots part then [[]] else []) := by
  have hend (kept : List Char) : resolveFrom kept ['/'] = kept ++ ['/'] := by
    have h := resolveFrom_segment List.not_mem_nil (show ¬ IsDots [] by decide) kept (.inl rfl)
    rw [List.append_nil, resolveFrom] at h
    exact h
  by_cases hdots : IsDots part
  · rw [if_pos hdots, joined_append]
    rcases hdots with rfl | rfl
    · rw [resolveFrom, hend]
      rfl
    · rw [resolveFrom, hend, dropSegment_joined hkept]
      rfl
  · have hlast := resolveFrom_segment hslash hdots (joined kept) (.inl rfl)
    rw [List.append_nil, resolveFrom] at hlast
    rw [hlast, if_neg hdots, follow_of_not_dots hdots, List.append_nil, joined_append, joined_cons,
      joined_nil, List.append_nil]

/-- A segment with another one behind it leads on. -/
lemma resolveFrom_next (hkept : Parted kept) (hslash : '/' ∉ part) (rest : List Char) :
    resolveFrom (joined kept) ('/' :: (part ++ '/' :: rest)) =
      resolveFrom (joined (follow kept part)) ('/' :: rest) := by
  by_cases hdots : IsDots part
  · rcases hdots with rfl | rfl
    · change resolveFrom _ ('/' :: '.' :: '/' :: rest) = _
      rw [resolveFrom]
      rfl
    · change resolveFrom _ ('/' :: '.' :: '.' :: '/' :: rest) = _
      rw [resolveFrom, dropSegment_joined hkept]
      rfl
  · rw [resolveFrom_segment hslash hdots (joined kept) (.inr ⟨rest, rfl⟩),
      follow_of_not_dots hdots, joined_append, joined_cons, joined_nil, List.append_nil]

/-- A segment keeps what was kept, and itself if it is no dot segment. -/
lemma mem_follow {kept : List (List Char)} {part other : List Char}
    (h : other ∈ follow kept part) : other ∈ kept ∨ (other = part ∧ ¬ IsDots part) := by
  by_cases hdots : IsDots part
  · rcases hdots with rfl | rfl
    · exact .inl h
    · exact .inl (List.dropLast_subset kept h)
  · rw [follow_of_not_dots hdots, List.mem_append, List.mem_singleton] at h
    exact h.imp_right fun heq => ⟨heq, hdots⟩

/-- What is kept behind a segment has no slash in it. -/
lemma parted_follow (hkept : Parted kept) (hslash : '/' ∉ part) : Parted (follow kept part) := by
  intro other h
  rcases mem_follow h with h | ⟨rfl, -⟩
  · exact hkept other h
  · exact hslash

/-- What is left of segments is empty or one of them, and no dot segment. -/
lemma mem_keptParts {kept parts : List (List Char)} {other : List Char}
    (h : other ∈ keptParts kept parts) :
    other ∈ kept ∨ other = [] ∨ (other ∈ parts ∧ ¬ IsDots other) := by
  induction kept, parts using keptParts.induct with
  | case1 kept => exact .inl h
  | case2 kept part =>
    rcases List.mem_append.1 h with h | h
    · rcases mem_follow h with h | ⟨rfl, hdots⟩
      · exact .inl h
      · exact .inr (.inr ⟨List.mem_singleton_self _, hdots⟩)
    · split at h
      · exact .inr (.inl (List.mem_singleton.1 h))
      · cases h
  | case3 kept part next parts ih =>
    rcases ih h with h | h | ⟨h, hdots⟩
    · rcases mem_follow h with h | ⟨rfl, hdots⟩
      · exact .inl h
      · exact .inr (.inr ⟨List.mem_cons_self, hdots⟩)
    · exact .inr (.inl h)
    · exact .inr (.inr ⟨List.mem_cons_of_mem _ h, hdots⟩)

/-- A segment that is no dot segment is kept. -/
lemma keptParts_cons (hpart : ¬ IsDots part) (kept parts : List (List Char)) :
    keptParts kept (part :: parts) = keptParts (kept ++ [part]) parts := by
  cases parts with
  | nil => rw [keptParts, keptParts, follow_of_not_dots hpart, if_neg hpart, List.append_nil]
  | cons next parts => rw [keptParts, follow_of_not_dots hpart]

/-- Segments without a dot segment among them are kept. -/
lemma keptParts_append (h : ∀ part ∈ parts, ¬ IsDots part) (kept more : List (List Char)) :
    keptParts kept (parts ++ more) = keptParts (kept ++ parts) more := by
  induction parts generalizing kept with
  | nil => rw [List.nil_append, List.append_nil]
  | cons part parts ih =>
    obtain ⟨hpart, hrest⟩ := List.forall_mem_cons.1 h
    rw [List.cons_append, keptParts_cons hpart, ih hrest, List.append_assoc, List.singleton_append]

/-- **What is left of a path that is made of segments** is the path of what is left of them. -/
theorem resolveFrom_joined (hkept : Parted kept) (hparts : Parted parts) :
    resolveFrom (joined kept) (joined parts) = joined (keptParts kept parts) := by
  induction kept, parts using keptParts.induct with
  | case1 kept => rw [joined_nil, resolveFrom, keptParts]
  | case2 kept part =>
    have hslash := hparts part (List.mem_singleton_self part)
    rw [joined_cons, joined_nil, List.append_nil, resolveFrom_last hkept hslash, keptParts]
  | case3 kept part next parts ih =>
    obtain ⟨hslash, hrest⟩ := List.forall_mem_cons.1 hparts
    rw [keptParts, ← ih (parted_follow hkept hslash) hrest]
    exact resolveFrom_next hkept hslash (next ++ joined parts)

example : resolved "/a/b/c/./../../g".toList = "/a/g".toList := by decide +kernel

/-- **A path is left as it is** exactly when none of its segments is a dot segment.

**Proof sketch.** Segments without a dot segment among them are all left. Conversely, what is left
is the path of segments among which there is no dot segment (`mem_keptParts`), and paths of
different segments are different. -/
theorem resolved_joined_eq_self_iff (h : Parted parts) :
    resolved (joined parts) = joined parts ↔ ∀ part ∈ parts, ¬ IsDots part := by
  have hresolved : resolved (joined parts) = joined (keptParts [] parts) :=
    resolveFrom_joined parted_nil h
  rw [hresolved]
  constructor
  · intro heq part hpart hdots
    have hparted : Parted (keptParts [] parts) := by
      intro other hother
      rcases mem_keptParts hother with hother | rfl | ⟨hother, -⟩
      · cases hother
      · exact List.not_mem_nil
      · exact h other hother
    rw [← joined_injective hparted h heq] at hpart
    rcases mem_keptParts hpart with hpart | rfl | ⟨-, hnot⟩
    · cases hpart
    · exact absurd hdots (by decide)
    · exact hnot hdots
  · intro hdots
    have hkept := keptParts_append hdots [] []
    rw [List.append_nil, List.nil_append, keptParts] at hkept
    rw [hkept]

/-! ### Paths that stay -/

/-- A path stays where it is: below any path without a dot segment nothing is taken out of it. -/
def IsConfined (path : List Char) : Prop :=
  ∀ above : List (List Char), Parted above → (∀ part ∈ above, ¬ IsDots part) →
    resolved (joined above ++ path) = joined above ++ path

/-- A dot segment is encoded as it is. -/
lemma IsDots.encode_eq (h : IsDots part) : encode part = part := by
  rcases h with rfl | rfl <;> decide

/-- Nothing else is encoded as a dot segment. -/
lemma isDots_encode_iff {cs : List Char} : IsDots (encode cs) ↔ IsDots cs := by
  have hinjective : Function.Injective encode := by
    intro cs ds h
    have hdecoded := congrArg decode? h
    rw [decode?_encode, decode?_encode] at hdecoded
    exact Option.some.inj hdecoded
  have hone : encode ['.'] = ['.'] := IsDots.encode_eq (.inl rfl)
  have htwo : encode ['.', '.'] = ['.', '.'] := IsDots.encode_eq (.inr rfl)
  refine or_congr ?_ ?_
  · rw [← hone, hinjective.eq_iff, hone]
  · rw [← htwo, hinjective.eq_iff, htwo]

/-- A path is made of the encoded forms of its segments. -/
lemma pathChars_eq_joined (segments : List (List Char)) :
    pathChars segments = joined (segments.map encode) := (List.flatMap_map ..).symm

/-- **A path of segments stays where it is** exactly when none of them is a dot segment. -/
theorem isConfined_pathChars_iff {segments : List (List Char)} :
    IsConfined (pathChars segments) ↔ ∀ cs ∈ segments, ¬ IsDots cs := by
  have hparted : Parted (segments.map encode) :=
    List.forall_mem_map.2 fun cs _ => (encoded_encode cs).slash_notMem
  have hdots : (∀ part ∈ segments.map encode, ¬ IsDots part) ↔ ∀ cs ∈ segments, ¬ IsDots cs := by
    simp only [List.forall_mem_map, isDots_encode_iff]
  rw [← hdots, pathChars_eq_joined]
  constructor
  · intro h
    exact (resolved_joined_eq_self_iff hparted).1 (h [] parted_nil (List.forall_mem_nil _))
  · intro h above habove hclean
    rw [← joined_append]
    refine (resolved_joined_eq_self_iff ?_).2 ?_
    · exact List.forall_mem_append.2 ⟨habove, hparted⟩
    · exact List.forall_mem_append.2 ⟨hclean, h⟩

/-- **Where a dot segment leads** behind a segment that is none: one dot leads to that segment, and
two dots lead to what stands above it. -/
theorem resolved_dots {above : List (List Char)} (habove : Parted above)
    (hclean : ∀ part ∈ above, ¬ IsDots part) {cs : List Char} (hcs : ¬ IsDots cs) :
    resolved (joined above ++ pathChars [cs, ['.']]) = joined above ++ pathChars [cs, []] ∧
      resolved (joined above ++ pathChars [cs, ['.', '.']]) = joined above ++ pathChars [[]] := by
  have hsegment : '/' ∉ encode cs := (encoded_encode cs).slash_notMem
  have hno : ¬ IsDots (encode cs) := mt isDots_encode_iff.1 hcs
  have hleads {dots : List Char} (hslash : '/' ∉ dots) :
      resolved (joined above ++ joined [encode cs, dots]) =
        joined (keptParts (above ++ [encode cs]) [dots]) := by
    have hparted : Parted (above ++ [encode cs, dots]) := by
      refine List.forall_mem_append.2 ⟨habove, ?_⟩
      exact List.forall_mem_cons.2 ⟨hsegment, List.forall_mem_singleton.2 hslash⟩
    have hresolved : resolved (joined (above ++ [encode cs, dots])) =
        joined (keptParts [] (above ++ [encode cs, dots])) := resolveFrom_joined parted_nil hparted
    rw [← joined_append, hresolved, keptParts_append hclean, keptParts_cons hno, List.nil_append]
  simp only [pathChars_eq_joined, List.map_cons, List.map_nil]
  rw [IsDots.encode_eq (.inl rfl), IsDots.encode_eq (.inr rfl), hleads (by decide),
    hleads (by decide)]
  constructor <;> simp [keptParts, follow, IsDots, encode]

end TableClient.Url
