import Mathlib.Data.List.Basic
import TableClient.Proofs.Query.TokenForms
import TableClient.Proofs.Text.Reading
import TableClient.TableName

set_option relaxedAutoImplicit false
set_option autoImplicit false

/-!
# Unique decodability

An encoded query has no separators, yet it can be taken apart in one way only when items and join
markers alternate in it, names of fields are made of lower-case letters, digits, underscores and
dots, and no operand has a caret in it or begins with an equals sign.

The name of a field ends where the tag of the operator begins, since no tag begins with a character
of a name. Some tags begin with others, `>=` with `>` for one, but then what the longer one has more
begins with an equals sign, which no operand does. An item ends where the next caret is, and the
marker at that caret is told from the item after it by the way that items begin.

## Main definitions

* `TableClient.Query.IsName`, `TableClient.Query.IsPlainOperand` — names of fields and operands that
  can be told from what surrounds them.
* `TableClient.Query.Token.Plain` — the tokens that are made of such names and operands.
* `TableClient.Query.Alternating`, `TableClient.Query.WellJoined` — items with join markers between
  them, and such items that are plain.

## Main results

* `TableClient.Query.tag_append_inj`, `TableClient.Query.Token.text_inj` — the text of a token
  determines its parts.
* `TableClient.Query.Alternating.pointsOf_inj` — the text of alternating tokens determines them.
* `TableClient.Query.Draft.encoded_determines_tokens` — the encoded query of a run determines its
  tokens, and each token its parts.
-/

namespace TableClient.Query

/-! ### Names, operands and tokens -/

/-- Whether a code point may stand in the name of a field: a lower-case letter or digit of ASCII, an
underscore or a dot. -/
def isNamePoint (p : CodePoint) : Bool := p.isOf fun c => TableName.isWordChar c || c == '.'

/-- The text is the name of a field. -/
def IsName (t : Text) : Prop := t ≠ "" ∧ ∀ p ∈ t.points, isNamePoint p = true

/-- The code point that join markers begin with. -/
def caret : CodePoint := .char '^'

/-- The operand has no caret in it and does not begin with an equals sign. -/
def IsPlainOperand (t : Text) : Prop :=
  caret ∉ t.points ∧ t.points.head? ≠ some (.char '=')

/-- The fields and the operand of a token can be told from what surrounds them. -/
def Token.Plain : Token → Prop
  | join _ => True
  | order _ name => IsName name
  | condition left _ operand => IsName left ∧ IsPlainOperand operand

/-- The token is an item: an ordering or a condition. -/
def Token.IsItem : Token → Prop
  | join _ => False
  | order _ _ | condition _ _ _ => True

/-- The operators of orderings. -/
def orderings : List Operator := [.orderBy, .orderByDescending]

/-- The token is none of a condition with the operator of an ordering. -/
def Token.Proper : Token → Prop
  | condition _ operator _ => operator ∉ orderings
  | join _ | order _ _ => True

/-- Items with join markers between them. -/
inductive Alternating : List Token → Prop where
  | single {t : Token} : t.IsItem → Alternating [t]
  | join {t : Token} {marker : Join} {ts : List Token} :
    t.IsItem → Alternating ts → Alternating (t :: .join marker :: ts)

/-- Alternating tokens whose fields and operands can be told from what surrounds them. -/
def WellJoined (ts : List Token) : Prop := Alternating ts ∧ ∀ t ∈ ts, t.Plain

/-- Alternating tokens are some. -/
lemma Alternating.ne_nil {ts : List Token} (h : Alternating ts) : ts ≠ [] := by
  cases h <;> exact List.cons_ne_nil _ _

/-! ### Tags -/

/-- Of two tags the one begins with the other only if they are the same, if they are those of the
orderings, or if an equals sign comes next. -/
lemma tag_prefix : ∀ o ∈ Operator.all, ∀ o' ∈ Operator.all,
    Text.points o.tag <+: Text.points o'.tag →
      o = o' ∨ o ∈ orderings ∨ Text.points o.tag ++ [.char '='] <+: Text.points o'.tag := by
  decide +kernel

/-- Every operator is listed. -/
lemma Operator.mem_all (o : Operator) : o ∈ Operator.all := by
  cases o <;> decide

/-- **The operator is determined by its tag and what comes after it.** -/
theorem tag_append_inj {o o' : Operator} {xs ys : List CodePoint} (ho : o ∉ orderings)
    (ho' : o' ∉ orderings) (hxs : xs.head? ≠ some (.char '=')) (hys : ys.head? ≠ some (.char '='))
    (h : Text.points o.tag ++ xs = Text.points o'.tag ++ ys) : o = o' ∧ xs = ys := by
  -- a longer tag would put its equals sign at the beginning of what comes after the shorter one
  have hsame {a b : Operator} {us vs : List CodePoint} (ha : a ∉ orderings)
      (hus : us.head? ≠ some (.char '=')) (heq : Text.points a.tag ++ us = Text.points b.tag ++ vs)
      (hpre : Text.points a.tag <+: Text.points b.tag) : a = b := by
    obtain hab | horder | ⟨rest, hrest⟩ := tag_prefix a a.mem_all b b.mem_all hpre
    · exact hab
    · exact absurd horder ha
    · rw [← hrest, List.append_assoc, List.append_assoc, List.append_cancel_left_eq] at heq
      exact absurd (congrArg List.head? heq) hus
  obtain hpre | hpre := List.prefix_or_prefix_of_prefix ⟨xs, h⟩ ⟨ys, rfl⟩
  · obtain rfl := hsame ho hxs h hpre
    exact ⟨rfl, List.append_cancel_left h⟩
  · obtain rfl := hsame ho' hys h.symm hpre
    exact ⟨rfl, List.append_cancel_left h⟩

/-- What begins with a tag does not begin with a character of a name. -/
lemma head_tag_append (o : Operator) (ps : List CodePoint) :
    ∀ p ∈ (Text.points o.tag ++ ps).head?, isNamePoint p = false := by
  intro p hp
  cases o <;>
    · obtain rfl := Option.some.inj hp
      decide

/-! ### Tokens -/

/-- Where a list leaves a class of items is determined, and so is what comes after that. -/
lemma span_append_inj {α : Type} {p : α → Bool} {xs xs' ys ys' : List α}
    (hxs : ∀ x ∈ xs, p x = true) (hxs' : ∀ x ∈ xs', p x = true)
    (hys : ∀ y ∈ ys.head?, p y = false) (hys' : ∀ y ∈ ys'.head?, p y = false)
    (h : xs ++ ys = xs' ++ ys') : xs = xs' ∧ ys = ys' := by
  have htake {us vs : List α} (hus : ∀ u ∈ us, p u = true) (hvs : ∀ v ∈ vs.head?, p v = false) :
      (us ++ vs).takeWhile p = us := by
    rw [List.takeWhile_append_of_pos hus]
    cases vs with
    | nil => rw [List.takeWhile_nil, List.append_nil]
    | cons v vs => rw [List.takeWhile_cons_of_neg (by simp [hvs v rfl]), List.append_nil]
  obtain rfl : xs = xs' := by rw [← htake hxs hys, h, htake hxs' hys']
  exact ⟨rfl, List.append_cancel_left h⟩

/-- The text of a condition determines its parts. -/
lemma condition_text_inj {left left' operand operand' : Text} {o o' : Operator}
    (ht : (Token.condition left o operand).Plain) (hu : (Token.condition left' o' operand').Plain)
    (ho : o ∉ orderings) (ho' : o' ∉ orderings)
    (h : (Token.condition left o operand).text = (Token.condition left' o' operand').text) :
    left = left' ∧ o = o' ∧ operand = operand' := by
  have hpoints : left.points ++ Text.points o.tag ++ operand.points =
      left'.points ++ Text.points o'.tag ++ operand'.points := congrArg Text.points h
  rw [List.append_assoc, List.append_assoc] at hpoints
  obtain ⟨hleft, hrest⟩ := span_append_inj ht.1.2 hu.1.2 (head_tag_append o _)
    (head_tag_append o' _) hpoints
  obtain ⟨rfl, hoperand⟩ := tag_append_inj ho ho' ht.2.2 hu.2.2 hrest
  exact ⟨congrArg Text.mk hleft, rfl, congrArg Text.mk hoperand⟩

/-- A name begins with one of its characters. -/
lemma IsName.head {name : Text} (h : IsName name) (ps : List CodePoint) :
    ∃ p, (name.points ++ ps).head? = some p ∧ isNamePoint p = true := by
  obtain ⟨points⟩ := name
  cases points with
  | nil => exact absurd rfl h.1
  | cons p points => exact ⟨p, rfl, h.2 p List.mem_cons_self⟩

/-- An ordering in one direction is none in the other, as a name does not begin with a capital. -/
lemma descending_text_ne {name name' : Text} (hname' : IsName name') :
    (Token.order true name).text ≠ (Token.order false name').text := by
  intro h
  have hpoints : Text.points "ORDERBY" ++ (Text.points "DESC" ++ name.points) =
      Text.points "ORDERBY" ++ name'.points := congrArg Text.points h
  obtain ⟨p, hp, hname⟩ := hname'.head []
  rw [List.append_nil, ← List.append_cancel_left hpoints] at hp
  obtain rfl := Option.some.inj hp
  exact absurd hname (by decide)

/-- The text of an ordering determines its parts. -/
lemma order_text_inj {descending descending' : Bool} {name name' : Text} (hname : IsName name)
    (hname' : IsName name')
    (h : (Token.order descending name).text = (Token.order descending' name').text) :
    descending = descending' ∧ name = name' := by
  cases descending <;> cases descending'
  · exact ⟨rfl, Text.append_left_cancel h⟩
  · exact absurd h.symm (descending_text_ne hname)
  · exact absurd h (descending_text_ne hname')
  · exact ⟨rfl, Text.append_left_cancel h⟩

/-- The forms of tokens. -/
inductive Form where
  | join
  | order
  | condition

/-- The form of a token. -/
def Token.form : Token → Form
  | join _ => .join
  | order _ _ => .order
  | condition _ _ _ => .condition

/-- The form of the tokens that begin with a code point: join markers begin with a caret, orderings
with their tag, and conditions with the name of their field. -/
def formOf (p : CodePoint) : Form :=
  if p = caret then .join else if p = .char 'O' then .order else .condition

/-- The text of a token has a first code point, which tells the form of the token. -/
lemma head_text {t : Token} (ht : t.Plain) :
    ∃ p, t.text.points.head? = some p ∧ formOf p = t.form := by
  cases t with
  | join marker => exact ⟨caret, by cases marker <;> rfl, rfl⟩
  | order descending name => exact ⟨.char 'O', by cases descending <;> rfl, rfl⟩
  | condition left o operand =>
    obtain ⟨p, hp, hname⟩ := ht.1.head (Text.points o.tag ++ operand.points)
    rw [← List.append_assoc] at hp
    have hne {q : CodePoint} (hq : isNamePoint q = false) : p ≠ q := by
      rintro rfl
      exact absurd hname (by simp [hq])
    refine ⟨p, hp, ?_⟩
    rw [formOf, if_neg (hne (by decide)), if_neg (hne (by decide))]
    rfl

/-- **The text of a token determines its parts.**

**Proof sketch.** How the text begins tells the form of the token, and for each form the parts are
determined. -/
theorem Token.text_inj {t u : Token} (ht : t.Plain) (hu : u.Plain) (ht' : t.Proper)
    (hu' : u.Proper) (h : t.text = u.text) : t = u := by
  have hform : t.form = u.form := by
    obtain ⟨p, hp, hform⟩ := head_text ht
    obtain ⟨q, hq, hform'⟩ := head_text hu
    rw [h, hq] at hp
    rw [← hform, ← hform', Option.some.inj hp]
  cases t with
  | join marker =>
    cases u with
    | join marker' => cases marker <;> cases marker' <;> first | rfl | exact absurd h (by decide)
    | order _ _ | condition _ _ _ => cases hform
  | order descending name =>
    cases u with
    | order descending' name' =>
      obtain ⟨rfl, rfl⟩ := order_text_inj ht hu h
      rfl
    | join _ | condition _ _ _ => cases hform
  | condition left o operand =>
    cases u with
    | condition left' o' operand' =>
      obtain ⟨rfl, rfl, rfl⟩ := condition_text_inj ht hu ht' hu' h
      rfl
    | join _ | order _ _ => cases hform

/-! ### Join markers -/

/-- Code points that begin like an item: with the tag of an ordering, or with a name. -/
def BeginsItem (ps : List CodePoint) : Prop :=
  Text.points "ORDERBY" <+: ps ∨ ∃ p, ps.head? = some p ∧ isNamePoint p = true

/-- An item begins with neither a `D` nor an `N`. -/
lemma BeginsItem.head_ne {ps : List CodePoint} (h : BeginsItem ps) :
    ps.head? ≠ some (.char 'D') ∧ ps.head? ≠ some (.char 'N') := by
  obtain ⟨rest, rfl⟩ | ⟨p, hp, hname⟩ := h
  · exact ⟨by simp [Text.ofString, Text.ofChars], by simp [Text.ofString, Text.ofChars]⟩
  · rw [hp]
    constructor <;>
      · rintro heq
        obtain rfl := Option.some.inj heq
        exact absurd hname (by decide)

/-- Only the tag of an ordering begins like the marker of an alternative, and after that comes a
`D`. -/
lemma BeginsItem.head_after_or {ps : List CodePoint}
    (h : BeginsItem (.char 'O' :: .char 'R' :: ps)) : ps.head? = some (.char 'D') := by
  obtain ⟨rest, hrest⟩ | ⟨p, hp, hname⟩ := h
  · have htail : Text.points "DERBY" ++ rest = ps := congrArg (List.drop 2) hrest
    rw [← htail]
    rfl
  · obtain rfl := Option.some.inj hp
    exact absurd hname (by decide)

/-- **A join marker is determined together with the item after it.** -/
theorem marker_append_inj {marker marker' : Join} {ps ps' : List CodePoint} (hps : BeginsItem ps)
    (hps' : BeginsItem ps')
    (h : Text.points marker.tag ++ ps = Text.points marker'.tag ++ ps') :
    marker = marker' ∧ ps = ps' := by
  -- two markers agree in the caret only, so that the item after the shorter one would begin with
  -- what the longer one has more
  cases marker <;> cases marker'
  case and.and | or.or | newQuery.newQuery => exact ⟨rfl, List.append_cancel_left h⟩
  case and.or =>
    obtain rfl : ps = .char 'O' :: .char 'R' :: ps' := congrArg List.tail h
    exact absurd hps.head_after_or hps'.head_ne.1
  case or.and =>
    obtain rfl : .char 'O' :: .char 'R' :: ps = ps' := congrArg List.tail h
    exact absurd hps'.head_after_or hps.head_ne.1
  case and.newQuery =>
    obtain rfl : ps = .char 'N' :: .char 'Q' :: ps' := congrArg List.tail h
    exact absurd rfl hps.head_ne.2
  case newQuery.and =>
    obtain rfl : .char 'N' :: .char 'Q' :: ps = ps' := congrArg List.tail h
    exact absurd rfl hps'.head_ne.2
  case or.newQuery | newQuery.or =>
    exact absurd (congrArg (fun qs => List.head? (List.tail qs)) h)
      (by simp [Join.tag, Text.ofString, Text.ofChars])

/-! ### Alternating tokens -/

/-- The code points of tokens, one after the other. -/
def pointsOf (ts : List Token) : List CodePoint := ts.flatMap fun t => t.text.points

/-- The text of an item has no caret in it. -/
lemma caret_notMem {t : Token} (hitem : t.IsItem) (ht : t.Plain) : caret ∉ t.text.points := by
  have hname {name : Text} (h : IsName name) : caret ∉ name.points := fun hmem =>
    absurd (h.2 caret hmem) (by decide)
  have htag (o : Operator) : caret ∉ Text.points o.tag := by
    cases o <;> decide
  cases t with
  | join marker => exact absurd hitem id
  | order descending name =>
    exact fun hmem => (List.mem_append.1 hmem).elim (htag _) (hname ht)
  | condition left o operand =>
    refine fun hmem => (List.mem_append.1 hmem).elim (fun hmem => ?_) ht.2.1
    exact (List.mem_append.1 hmem).elim (hname ht.1) (htag o)

/-- Alternating tokens begin with an item. -/
lemma Alternating.beginsItem {ts : List Token} (h : Alternating ts) (hplain : ∀ t ∈ ts, t.Plain) :
    BeginsItem (pointsOf ts) := by
  have hitem {t : Token} (hitem : t.IsItem) (ht : t.Plain) (ps : List CodePoint) :
      BeginsItem (t.text.points ++ ps) := by
    cases t with
    | join marker => exact absurd hitem id
    | order descending name =>
      cases descending with
      | false => exact .inl ⟨name.points ++ ps, rfl⟩
      | true => exact .inl ⟨Text.points "DESC" ++ name.points ++ ps, rfl⟩
    | condition left o operand =>
      have hhead := ht.1.head (Text.points o.tag ++ operand.points ++ ps)
      rw [← List.append_assoc, ← List.append_assoc] at hhead
      exact .inr hhead
  cases h with
  | single ht => exact hitem ht (hplain _ List.mem_cons_self) []
  | join ht _ => exact hitem ht (hplain _ List.mem_cons_self) _

/-- What begins with a join marker begins with a caret. -/
lemma head_marker_append (marker : Join) (ps : List CodePoint) :
    ∀ p ∈ (Text.points marker.tag ++ ps).head?, p = caret := by
  intro p hp
  cases marker <;> exact (Option.some.inj hp).symm

/-- **The first item is determined together with what comes after it**, which begins with a caret if
there is anything. -/
theorem first_item_inj {t u : Token} {ps ps' : List CodePoint} (ht : t.IsItem) (hu : u.IsItem)
    (ht' : t.Plain ∧ t.Proper) (hu' : u.Plain ∧ u.Proper) (hps : ∀ p ∈ ps.head?, p = caret)
    (hps' : ∀ p ∈ ps'.head?, p = caret) (h : t.text.points ++ ps = u.text.points ++ ps') :
    t = u ∧ ps = ps' := by
  have hno {v : Token} (hv : v.IsItem) (hv' : v.Plain) :
      ∀ p ∈ v.text.points, decide (p ≠ caret) = true := fun p hp =>
    decide_eq_true fun hpc => caret_notMem hv hv' (hpc ▸ hp)
  obtain ⟨htext, hrest⟩ := span_append_inj (hno ht ht'.1) (hno hu hu'.1)
    (fun p hp => by simp [hps p hp]) (fun p hp => by simp [hps' p hp]) h
  exact ⟨Token.text_inj ht'.1 hu'.1 ht'.2 hu'.2 (congrArg Text.mk htext), hrest⟩

/-- **The text of alternating tokens determines them.**

**Proof sketch.** Induction on the tokens. The first items are the same (`first_item_inj`), and
either nothing comes after them or a marker does, which is determined together with the rest, since
the rest begins with an item (`marker_append_inj`). -/
theorem Alternating.pointsOf_inj {ts us : List Token} (hts : Alternating ts) (hus : Alternating us)
    (hplain : ∀ t ∈ ts, t.Plain ∧ t.Proper) (hplain' : ∀ u ∈ us, u.Plain ∧ u.Proper)
    (h : pointsOf ts = pointsOf us) : ts = us := by
  induction hts generalizing us with
  | single ht =>
    have ht' := hplain _ List.mem_cons_self
    cases hus with
    | single hu =>
      have hu' := hplain' _ List.mem_cons_self
      obtain ⟨rfl, -⟩ := first_item_inj ht hu ht' hu' (by simp) (by simp) h
      rfl
    | @join u marker us hu hus =>
      have hu' := hplain' _ List.mem_cons_self
      obtain ⟨-, hrest⟩ := first_item_inj ht hu ht' hu' (by simp)
        (head_marker_append marker (pointsOf us)) h
      cases marker <;> cases hrest
  | @join t marker ts ht hts ih =>
    obtain ⟨ht', -, hplains⟩ := by simpa only [List.forall_mem_cons] using hplain
    cases hus with
    | single hu =>
      have hu' := hplain' _ List.mem_cons_self
      obtain ⟨-, hrest⟩ := first_item_inj ht hu ht' hu' (head_marker_append marker (pointsOf ts))
        (by simp) h
      cases marker <;> cases hrest
    | @join u marker' us hu hus =>
      obtain ⟨hu', -, hplains'⟩ := by simpa only [List.forall_mem_cons] using hplain'
      obtain ⟨rfl, hrest⟩ := first_item_inj ht hu ht' hu' (head_marker_append marker _)
        (head_marker_append marker' _) h
      obtain ⟨rfl, hpoints⟩ := marker_append_inj (hts.beginsItem fun t ht => (hplains t ht).1)
        (hus.beginsItem fun u hu => (hplains' u hu).1) hrest
      rw [ih hus hplains hplains' hpoints]

/-! ### Runs -/

/-- No condition has the operator of an ordering. -/
lemma Condition.operator_notMem (c : Condition) : c.operator ∉ orderings := by
  cases c <;> rw [Condition.operator]
  case textual test v => cases test <;> decide
  case bare test => cases test <;> decide
  case compare comparison v => cases comparison <;> decide
  case equality negated v => split <;> cases negated <;> decide
  case membership negated v => cases negated <;> decide
  case between start finish => decide
  case ago older amount unit => cases older <;> decide

/-- No relative condition has the operator of an ordering, as their tags do not end with `THAN`. -/
lemma Relative.operator_notMem (r : Relative) : r.operator ∉ orderings := by
  unfold Relative.operator Action.relativeOperator?
  cases ho : Operator.all.find? fun o => r.quantifier.shown ++ "THAN" == o.tag with
  | none => decide
  | some o =>
    have htag : r.quantifier.shown ++ "THAN" = Text.ofString o.tag := by
      simpa using List.find?_some ho
    have hsuffix : Text.points "THAN" <:+ Text.points o.tag :=
      ⟨r.quantifier.shown.points, congrArg Text.points htag⟩
    revert hsuffix
    cases o <;> decide

/-- No condition that a step adds has the operator of an ordering. -/
lemma proper_token {d : Draft} {c : Call} {t : Token} (h : c.token? d = some t) : t.Proper := by
  cases c with
  | condition c =>
    cases h
    exact c.operator_notMem
  | before index second =>
    obtain ⟨r, -, rfl⟩ := Option.map_eq_some_iff.1 h
    exact r.operator_notMem
  | join marker | order descending =>
    cases h
    trivial
  | _ => cases h

namespace Draft

/-- No condition of a history has the operator of an ordering. -/
lemma proper_of_mem_history {d : Draft} {cs : List Call} {t : Token} (h : t ∈ d.history cs) :
    t.Proper := by
  induction cs generalizing d with
  | nil => cases h
  | cons c cs ih =>
    obtain ⟨-, hstep⟩ | ⟨f, -, hstep⟩ := d.step_cases c
    · rw [history_cons_of_ok hstep, List.mem_append, Option.mem_toList] at h
      exact h.elim proper_token ih
    · rw [history_cons_of_error hstep] at h
      exact ih h

/-- A run that adds tokens to a new query builds the code points of its history. -/
lemma build_run {cs : List Call} (h : empty.history cs ≠ []) :
    (empty.run cs).2.builder.build = .ok ⟨pointsOf (empty.history cs)⟩ := by
  have htokens : (empty.run cs).2.builder.tokens = (empty.history cs).map Token.text :=
    empty.tokens_run cs
  have hpoints : Text.flatten ((empty.history cs).map Token.text) =
      ⟨pointsOf (empty.history cs)⟩ := by
    rw [Text.flatten, List.flatMap_map, pointsOf]
  rw [Builder.build, Builder.encoded, htokens, hpoints, if_neg (by simpa using h)]

/-- **The encoded query of a run determines its tokens.** A run from a new query whose tokens are
well joined can be built. If two such runs build the same text, their tokens are the same, and so
are the parts of each token: the field, the operator and the operand of a condition, the direction
and the field of an ordering, and the marker of a join. Each token determines these parts by
itself. -/
theorem encoded_determines_tokens {cs es : List Call} (hcs : WellJoined (empty.history cs))
    (hes : WellJoined (empty.history es)) :
    (∃ text, (empty.run cs).2.builder.build = .ok text) ∧
    ((empty.run cs).2.builder.build = (empty.run es).2.builder.build →
      (empty.run cs).2.builder.tokens = (empty.run es).2.builder.tokens ∧
        empty.history cs = empty.history es) ∧
    ∀ t ∈ empty.history cs, ∀ u ∈ empty.history es, t.text = u.text → t = u := by
  refine ⟨⟨_, build_run hcs.1.ne_nil⟩, fun hbuild => ?_, fun t ht u hu htext => ?_⟩
  · rw [build_run hcs.1.ne_nil, build_run hes.1.ne_nil] at hbuild
    have hhistory : empty.history cs = empty.history es :=
      hcs.1.pointsOf_inj hes.1 (fun t ht => ⟨hcs.2 t ht, proper_of_mem_history ht⟩)
        (fun u hu => ⟨hes.2 u hu, proper_of_mem_history hu⟩)
        (congrArg Text.points (Except.ok.inj hbuild))
    refine ⟨?_, hhistory⟩
    rw [tokens_run, tokens_run, hhistory]
  · exact Token.text_inj (hcs.2 t ht) (hes.2 u hu) (proper_of_mem_history ht)
      (proper_of_mem_history hu) htext

/-- Two runs with a condition, an alternative that is an ordering, and a comparison whose tag begins
like another one build the same text; the second has a step that is refused. -/
theorem encoded_determines_tokens_alternative :
    let cs : List Call := [.field (.text "active"), .condition (.equality false (.text "true")),
      .join .or, .order true, .join .and, .condition (.compare .atLeast (.text "5"))]
    let es : List Call := [.field (.text "active"), .condition (.equality false (.text "true")),
      .condition (.equality false .null), .join .or, .order true, .join .and,
      .condition (.compare .atLeast (.text "5"))]
    WellJoined (empty.history cs) ∧ WellJoined (empty.history es) ∧
      (empty.run cs).2.builder.build = .ok "active=true^ORORDERBYDESCactive^active>=5" ∧
      empty.history cs = empty.history es := by
  intro cs es
  have hname : IsName "active" := ⟨by decide, by decide⟩
  have hplain : ∀ t ∈ [Token.condition "active" .equals "true", .join .or, .order true "active",
      .join .and, .condition "active" .greaterOrEqual "5"], t.Plain := by
    simp only [List.forall_mem_cons, List.not_mem_nil, false_imp_iff, implies_true, and_true]
    exact ⟨⟨hname, by decide, by decide⟩, trivial, hname, trivial, hname, by decide, by decide⟩
  have hcs : WellJoined (empty.history cs) :=
    ⟨.join trivial (.join trivial (.single trivial)), hplain⟩
  have hes : WellJoined (empty.history es) :=
    ⟨.join trivial (.join trivial (.single trivial)), hplain⟩
  exact ⟨hcs, hes, rfl, ((encoded_determines_tokens hcs hes).2.1 rfl).2⟩

end Draft

end TableClient.Query
