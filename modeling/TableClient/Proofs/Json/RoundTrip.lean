import TableClient.Proofs.Binary64.Text
import TableClient.Proofs.Decimal.Canonical
import TableClient.Proofs.Json.Numbers
import TableClient.Proofs.Json.Strings
import TableClient.Proofs.Json.Writable
import TableClient.Proofs.Value.WellKeyed

set_option relaxedAutoImplicit false
set_option autoImplicit false

/-!
# Values that are read back

Every value that can be written is read back from its JSON text, whatever ends the text of the
value: a comma, a closing bracket or brace, or nothing. What is read back is the value itself for
those that JSON text stands for as they are. Of the others, a tuple becomes a list, keys become
texts, and a value that JSON does not know becomes the text that it shows. The JSON text of a value
has printable ASCII characters only, so that it is one line.

## Main definitions

* `TableClient.Json.image` — what is read back of a value.

## Main results

* `TableClient.Json.readValue_valueChars` — values, with what follows.
* `TableClient.Json.read_write` — whole texts.
* `TableClient.Json.image_of_faithful`, `TableClient.Json.image_ofMembers` — values that are read
  back as they are, and records of named values.
* `TableClient.Json.plain_valueChars` — the JSON text of a value is printable.
-/

namespace TableClient.Json

mutual

/-- What is read back of a value: a tuple as a list, and a value that JSON does not know as the text
that it shows. Surrogates that meet in a text are read as the character they stand for. -/
def image : Value → Value
  | .null => .null
  | .bool b => .bool b
  | .int n => .int n
  | .float x => .float x
  | .text t => .text (paired t)
  | .list items | .tuple items => .list (itemsImage items)
  | .record entries => .record (entriesImage entries [])
  | v => .text (paired v.shown)

/-- What is read back of several values. -/
def itemsImage : List Value → List Value
  | [] => []
  | v :: vs => image v :: itemsImage vs

/-- What is read back of entries behind others: of several with the same name, the last one. -/
def entriesImage : List (Value × Value) → Entries → Entries
  | [], read => read
  | (key, v) :: es, read =>
    entriesImage es (read.insert (.text (paired (keyText key))) (image v))

end

/-! ### Where a value begins -/

/-- The text of a value begins with a character that is no space and closes no list. -/
def Begins (cs : List Char) : Prop := ∃ c r, cs = c :: r ∧ isSpace c = false ∧ c ≠ ']'

/-- A text that begins with no space is left by skipping spaces. -/
lemma Begins.skipSpace_eq {cs : List Char} (h : Begins cs) (rest : List Char) :
    skipSpace (cs ++ rest) = cs ++ rest := by
  obtain ⟨c, r, rfl, hspace, -⟩ := h
  rw [skipSpace, List.cons_append, List.dropWhile_cons_of_neg (by simp [hspace])]

/-- The space before the text of a value is skipped. -/
lemma Begins.skipSpace_blank {cs : List Char} (h : Begins cs) (rest : List Char) :
    skipSpace (' ' :: (cs ++ rest)) = cs ++ rest :=
  h.skipSpace_eq rest

/-- A text that begins as a number begins with no space and closes no list. -/
lemma IsSigned.begins {cs : List Char} (h : IsSigned cs) : Begins cs := by
  obtain ⟨c, r, hcs, hfirst⟩ := h.exists_cons
  refine ⟨c, r, hcs, ?_⟩
  rcases hfirst with rfl | hdigit
  · decide
  · refine ⟨?_, ?_⟩
    · rw [isSpace]
      simp only [Bool.or_eq_false_iff, decide_eq_false_iff_not]
      refine ⟨⟨⟨?_, ?_⟩, ?_⟩, ?_⟩ <;> rintro rfl <;> cases hdigit
    · rintro rfl
      cases hdigit

/-- **The text of a value begins with no space and closes no list.** -/
theorem begins_valueChars (v : Value) : Begins (valueChars v) := by
  cases v with
  | null => exact ⟨'n', ['u', 'l', 'l'], rfl, rfl, by decide⟩
  | bool b => cases b <;> exact ⟨_, _, rfl, rfl, by decide⟩
  | int n => exact (isSigned_ofInt n).begins
  | float x =>
    cases x with
    | finite x => exact (isSigned_finite spelling x).begins
    | infinite negative => cases negative <;> exact ⟨_, _, rfl, rfl, by decide⟩
    | notANumber => exact ⟨_, _, rfl, rfl, by decide⟩
  | list items | tuple items => exact ⟨'[', _, rfl, rfl, by decide⟩
  | record entries => exact ⟨'{', _, rfl, rfl, by decide⟩
  | _ => exact ⟨'"', _, rfl, rfl, by decide⟩

/-- The text of the items of a list begins as its first item. -/
lemma begins_itemsChars (v : Value) (vs : List Value) : Begins (itemsChars (v :: vs)) := by
  cases vs with
  | nil => exact begins_valueChars v
  | cons w vs =>
    obtain ⟨c, r, hr, hspace, hclose⟩ := begins_valueChars v
    refine ⟨c, r ++ ',' :: ' ' :: itemsChars (w :: vs), ?_, hspace, hclose⟩
    rw [itemsChars, hr, List.cons_append]
    exact fun h => nomatch h

/-! ### One value -/

/-- A value that is neither text, list nor record is read by its name or as a number. -/
lemma readValue_other (steps limit : Nat) {c : Char} (cs : List Char) (hquote : c ≠ '"')
    (hlist : c ≠ '[') (hrecord : c ≠ '{') :
    readValue (steps + 1) limit (c :: cs) =
      (readName? (c :: cs)).elim (readNumber (c :: cs)) .ok := by
  rw [readValue]
  · cases readName? (c :: cs) <;> rfl
  · exact fun _ heq => hquote (List.cons.inj heq).1
  · exact fun _ heq _ => hlist (List.cons.inj heq).1
  · exact fun _ heq _ => hrecord (List.cons.inj heq).1
  · exact fun _ _ heq _ => hlist (List.cons.inj heq).1
  · exact fun _ _ heq _ => hrecord (List.cons.inj heq).1

/-- A text that begins as a number is read as a number. -/
lemma readValue_number (steps limit : Nat) {cs : List Char} (h : IsSigned cs) :
    readValue (steps + 1) limit cs = readNumber cs := by
  obtain ⟨c, r, rfl, hfirst⟩ := h.exists_cons
  rw [readValue_other, h.readName?_eq_none]
  · rfl
  all_goals
    rintro rfl
    rcases hfirst with hminus | hdigit
    · cases hminus
    · cases hdigit

/-- A string is read as a text. -/
lemma readValue_string (steps limit : Nat) (t : Text) (rest : List Char) :
    readValue (steps + 1) limit (stringChars t ++ rest) = .ok (.text (paired t), rest) := by
  rw [stringChars_append, readValue]
  exact congrArg (Except.map _) (readString_stringChars t rest)

/-- The items of a list that has some are read after the bracket. -/
lemma readValue_list (steps limit : Nat) {cs : List Char} (h : Begins cs) (rest : List Char) :
    readValue (steps + 1) (limit + 1) ('[' :: (cs ++ rest)) =
      (readItems steps limit (cs ++ rest)).map fun (vs, rest) => (.list vs, rest) := by
  obtain ⟨c, r, rfl, -, hclose⟩ := id h
  rw [readValue, h.skipSpace_eq]
  split
  · rename_i heq
    exact absurd (List.cons.inj heq).1 hclose
  · rfl

/-- The entries of a record that has some are read after the brace. -/
lemma readValue_record (steps limit : Nat) (cs : List Char) :
    readValue (steps + 1) (limit + 1) ('{' :: '"' :: cs) =
      (readEntries steps limit [] ('"' :: cs)).map fun (es, rest) => (.record es, rest) := by
  rw [readValue]
  rfl

/-- The image of a value is read to a level of nesting, with as many steps as twice the length of
its text, whatever ends it. -/
def ReadsBack (limit : Nat) (v : Value) : Prop :=
  ∀ steps rest, 2 * (valueChars v).length ≤ steps → Ends rest →
    readValue steps limit (valueChars v ++ rest) = .ok (image v, rest)

/-- A closing bracket, brace or comma is no space. -/
lemma skipSpace_cons {c : Char} (h : c = ',' ∨ c = ']' ∨ c = '}') (rest : List Char) :
    skipSpace (c :: rest) = c :: rest := by
  rw [skipSpace, List.dropWhile_cons_of_neg]
  rcases h with rfl | rfl | rfl <;> decide

/-! ### Items and entries -/

/-- **The items of a list are read back** if each of them is. -/
theorem readItems_itemsChars {limit : Nat} {v : Value} {vs : List Value}
    (h : ∀ w ∈ v :: vs, ReadsBack limit w) {steps : Nat}
    (hsteps : 2 * (itemsChars (v :: vs)).length + 1 ≤ steps) (rest : List Char) :
    readItems steps limit (itemsChars (v :: vs) ++ ']' :: rest) =
      .ok (itemsImage (v :: vs), rest) := by
  induction vs generalizing v steps with
  | nil =>
    obtain ⟨steps, rfl⟩ := Nat.exists_eq_add_one.2 (by omega : 0 < steps)
    have hvalue := h v List.mem_cons_self steps (']' :: rest) (by simpa [itemsChars] using hsteps)
      (ends_cons (.inr (.inl rfl)) rest)
    rw [itemsChars, readItems, hvalue]
    rfl
  | cons w vs ih =>
    obtain ⟨steps, rfl⟩ := Nat.exists_eq_add_one.2 (by omega : 0 < steps)
    obtain ⟨hv, hvs⟩ := List.forall_mem_cons.1 h
    have hlength : (itemsChars (v :: w :: vs)).length =
        (valueChars v).length + 2 + (itemsChars (w :: vs)).length := by
      simp only [itemsChars, List.length_append, List.length_cons]
      omega
    have hvalue := hv steps (',' :: ' ' :: (itemsChars (w :: vs) ++ ']' :: rest)) (by omega)
      (ends_cons (.inl rfl) _)
    have hrest := ih hvs (by omega : 2 * (itemsChars (w :: vs)).length + 1 ≤ steps)
    have hskip := (begins_itemsChars w vs).skipSpace_blank (']' :: rest)
    have hchars : itemsChars (v :: w :: vs) ++ ']' :: rest =
        valueChars v ++ ',' :: ' ' :: (itemsChars (w :: vs) ++ ']' :: rest) := by
      simp [itemsChars]
    rw [hchars, readItems, hvalue]
    show Except.map _ (readItems steps limit (skipSpace (' ' :: _))) = _
    rw [hskip, hrest]
    rfl

/-- The text of the entries of a record, from the first one on. -/
lemma entriesChars_cons (key v : Value) (es : Entries) :
    entriesChars ((key, v) :: es) =
      keyChars key ++ ':' :: ' ' :: (valueChars v ++
        if es.isEmpty then [] else ',' :: ' ' :: entriesChars es) := by
  cases es <;> simp [entriesChars]

/-- The text of the entries of a record begins with a quote. -/
lemma exists_entriesChars_cons (key v : Value) (es : Entries) :
    ∃ cs, entriesChars ((key, v) :: es) = '"' :: cs := by
  rw [entriesChars_cons, keyChars, stringChars_append]
  exact ⟨_, rfl⟩

/-- An entry whose value is read back is read, and set behind others. -/
lemma readEntries_cons {steps limit : Nat} (read : Entries) {key v : Value} (more : List Char)
    (h : ReadsBack limit v) (hsteps : 2 * (valueChars v).length ≤ steps) (hmore : Ends more) :
    readEntries (steps + 1) limit read (keyChars key ++ ':' :: ' ' :: (valueChars v ++ more)) =
      match skipSpace more with
      | '}' :: rest => .ok (read.insert (.text (paired (keyText key))) (image v), rest)
      | ',' :: rest =>
        readEntries steps limit (read.insert (.text (paired (keyText key))) (image v))
          (skipSpace rest)
      | _ => .error .malformed := by
  have hvalue : readValue steps limit (skipSpace (' ' :: (valueChars v ++ more))) =
      .ok (image v, more) := by
    rw [(begins_valueChars v).skipSpace_blank, h steps more hsteps hmore]
  rw [keyChars, stringChars_append, readEntries, readString_stringChars]
  show Except.bind (readValue steps limit (skipSpace (' ' :: (valueChars v ++ more)))) _ = _
  rw [hvalue]
  rfl

/-- **The entries of a record are read back** behind others, if each value is. -/
theorem readEntries_entriesChars {limit : Nat} {read es : Entries} (hne : es ≠ [])
    (h : ∀ e ∈ es, ReadsBack limit e.2) {steps : Nat}
    (hsteps : 2 * (entriesChars es).length + 1 ≤ steps) (rest : List Char) :
    readEntries steps limit read (entriesChars es ++ '}' :: rest) =
      .ok (entriesImage es read, rest) := by
  induction es generalizing read steps with
  | nil => exact absurd rfl hne
  | cons e es ih =>
    obtain ⟨steps, rfl⟩ := Nat.exists_eq_add_one.2 (by omega : 0 < steps)
    obtain ⟨key, v⟩ := e
    obtain ⟨(hv : ReadsBack limit v), h'⟩ := List.forall_mem_cons.1 h
    rw [entriesChars_cons] at hsteps ⊢
    simp only [List.length_cons, List.length_append] at hsteps
    cases es with
    | nil =>
      have hentry := @readEntries_cons steps limit read key v ('}' :: rest) hv
        (by omega : 2 * (valueChars v).length ≤ steps) (ends_cons (.inr (.inr rfl)) rest)
      simp only [List.isEmpty_nil, if_true, List.append_nil, List.cons_append, List.append_assoc]
      rw [hentry, skipSpace_cons (.inr (.inr rfl))]
      rfl
    | cons e es =>
      have hentry := @readEntries_cons steps limit read key v
        (',' :: ' ' :: (entriesChars (e :: es) ++ '}' :: rest)) hv
        (by omega : 2 * (valueChars v).length ≤ steps) (ends_cons (.inl rfl) _)
      obtain ⟨cs, hcs⟩ := exists_entriesChars_cons e.1 e.2 es
      have hblank : skipSpace (' ' :: (entriesChars (e :: es) ++ '}' :: rest)) =
          entriesChars (e :: es) ++ '}' :: rest := by
        rw [hcs]
        rfl
      have hfewer : 2 * (entriesChars (e :: es)).length + 1 ≤ steps := by
        simp only [List.isEmpty_cons, Bool.false_eq_true, if_false, List.length_cons] at hsteps
        omega
      have hrest := @ih (read.insert (.text (paired (keyText key))) (image v))
        (List.cons_ne_nil e es) h' steps hfewer
      simp only [List.isEmpty_cons, Bool.false_eq_true, if_false, List.cons_append,
        List.append_assoc]
      rw [hentry, skipSpace_cons (.inl rfl)]
      show readEntries steps limit _ (skipSpace (' ' :: _)) = _
      rw [hblank, hrest]
      rfl

/-! ### All values -/

/-- The bound on the steps allows for one at least. -/
lemma exists_step {steps : Nat} {v : Value} (hsteps : 2 * (valueChars v).length ≤ steps) :
    ∃ fewer, steps = fewer + 1 := by
  obtain ⟨c, r, hr, -⟩ := begins_valueChars v
  rw [hr, List.length_cons] at hsteps
  exact Nat.exists_eq_add_one.2 (by omega)

/-- The items of a list between their brackets are read back if each of them is. -/
lemma readsBack_list {limit : Nat} {items : List Value} (h : ∀ w ∈ items, ReadsBack limit w) :
    ReadsBack (limit + 1) (.list items) := by
  intro steps rest hsteps _
  obtain ⟨steps, rfl⟩ := exists_step hsteps
  rw [valueChars, List.cons_append, List.cons_append, List.append_assoc]
  cases items with
  | nil =>
    rw [readValue]
    rfl
  | cons v vs =>
    have hfewer : 2 * (itemsChars (v :: vs)).length + 1 ≤ steps := by
      simp only [valueChars, List.length_append, List.length_cons] at hsteps
      omega
    rw [readValue_list steps limit (begins_itemsChars v vs)]
    exact congrArg (Except.map _) (readItems_itemsChars h hfewer rest)

/-- The entries of a record between their braces are read back if each value is. -/
lemma readsBack_record {limit : Nat} {entries : Entries}
    (h : ∀ e ∈ entries, ReadsBack limit e.2) : ReadsBack (limit + 1) (.record entries) := by
  intro steps rest hsteps _
  obtain ⟨steps, rfl⟩ := exists_step hsteps
  rw [valueChars, List.cons_append, List.cons_append, List.append_assoc]
  cases entries with
  | nil =>
    rw [readValue]
    rfl
  | cons e es =>
    have hfewer : 2 * (entriesChars (e :: es)).length + 1 ≤ steps := by
      simp only [valueChars, List.length_append, List.length_cons] at hsteps
      omega
    have hentries := @readEntries_entriesChars _ [] _ (List.cons_ne_nil e es) h _ hfewer rest
    obtain ⟨cs, hcs⟩ := exists_entriesChars_cons e.1 e.2 es
    rw [hcs, List.cons_append] at hentries ⊢
    rw [readValue_record]
    exact congrArg (Except.map fun found => (Value.record found.1, found.2)) hentries

/-- A value without parts that can be written is read back. -/
lemma readsBack_simple {levels limit : Nat} {v : Value} (hv : hasParts v = false)
    (h : fault? v levels = none) : ReadsBack limit v := by
  intro steps rest hsteps hrest
  obtain ⟨steps, rfl⟩ := exists_step hsteps
  cases v with
  | null => exact readValue_other steps limit _ (by decide) (by decide) (by decide)
  | bool b => cases b <;> exact readValue_other steps limit _ (by decide) (by decide) (by decide)
  | int n =>
    rw [fault?_int, numeralFault?_eq_none] at h
    rw [valueChars, readValue_number steps limit ((isSigned_ofInt n).append rest)]
    exact readNumber_ofInt h hrest
  | float x =>
    cases x with
    | finite x =>
      rw [valueChars, readValue_number steps limit ((isSigned_finite spelling x).append rest)]
      exact readNumber_finite spelling x hrest
    | infinite negative =>
      cases negative <;>
        exact readValue_other steps limit _ (by decide) (by decide) (by decide)
    | notANumber => exact readValue_other steps limit _ (by decide) (by decide) (by decide)
  | list _ | tuple _ | record _ => cases hv
  | _ => exact readValue_string steps limit _ rest

/-- **A value is read back from its JSON text**, whatever ends it.

**Proof sketch.** Induction over the parts of the value. Texts are read back from their strings
(`readString_stringChars`), numbers from their texts (`readNumber_ofInt`, `readNumber_finite`).
Items and entries take one step each besides those for their values (`readItems_itemsChars`,
`readEntries_entriesChars`), and no more than the comma and the space between them allow for. -/
theorem readValue_valueChars {levels : Nat} {v : Value} (h : fault? v levels = none) :
    ReadsBack levels v := by
  induction v using nested_induction generalizing levels with
  | list items ih =>
    obtain ⟨below, rfl, hitems⟩ := fault?_list_eq_none.1 h
    exact readsBack_list fun w hw => ih w hw (hitems w hw)
  | tuple items ih =>
    rw [fault?_tuple] at h
    obtain ⟨below, rfl, hitems⟩ := fault?_list_eq_none.1 h
    -- a tuple has the text and the image of the list of its items
    exact readsBack_list fun w hw => ih w hw (hitems w hw)
  | record entries ih =>
    obtain ⟨below, rfl, hentries⟩ := fault?_record_eq_none.1 h
    exact readsBack_record fun e he => ih e he (hentries e he).2
  | simple v hv => exact readsBack_simple hv h

/-- **A value that can be written is read back from what is written of it.** -/
theorem read_write {v : Value} (h : fault? v maxNesting = none) :
    read (write v) = .ok (image v) := by
  have hskip := (begins_valueChars v).skipSpace_eq []
  have hread := readValue_valueChars h (2 * (valueChars v).length + 2) [] (by omega)
    (fun _ hc => nomatch hc)
  rw [List.append_nil] at hskip hread
  rw [read, readChars, write, String.toList_ofList, hskip, hread]
  rfl

/-! ### Images -/

/-- Items are read back one by one. -/
lemma itemsImage_eq (items : List Value) : itemsImage items = items.map image := by
  induction items with
  | nil => rfl
  | cons v vs ih => exact congrArg (image v :: ·) ih

/-- An entry whose key is apart from all others is added behind them. -/
lemma insert_of_apart {read es : Entries} {key v w : Value}
    (h : (Keyed.keys (read ++ (key, v) :: es)).Pairwise fun k k' => (k == k') = false) :
    read.insert key w = read ++ [(key, w)] := by
  rw [Keyed.keys, List.map_append, List.map_cons, List.pairwise_append] at h
  refine Keyed.insert_of_get?_eq_none w (Keyed.get?_eq_none fun e he => ?_)
  exact h.2.2 e.1 (List.mem_map_of_mem he) key List.mem_cons_self

/-- **Entries with texts of characters as keys are read back one by one** if their keys are
apart. -/
theorem entriesImage_eq {es read : Entries}
    (hapart : (Keyed.keys (read ++ es)).Pairwise fun k k' => (k == k') = false)
    (hkeys : ∀ e ∈ es, ∃ cs, e.1 = .text (.ofChars cs)) :
    entriesImage es read = read ++ es.map fun e => (e.1, image e.2) := by
  induction es generalizing read with
  | nil => exact (List.append_nil read).symm
  | cons e es ih =>
    obtain ⟨key, v⟩ := e
    obtain ⟨⟨cs, rfl : key = .text (.ofChars cs)⟩, hkeys'⟩ := List.forall_mem_cons.1 hkeys
    have hnext : (Keyed.keys ((read ++ [(.text (.ofChars cs), image v)]) ++ es)).Pairwise
        fun k k' => (k == k') = false := by
      rw [List.append_assoc, List.singleton_append]
      simpa [Keyed.keys] using hapart
    rw [entriesImage, keyText, paired_ofChars, insert_of_apart hapart, ih hnext hkeys',
      List.append_assoc, List.map_cons, List.singleton_append]

/-- **Values that JSON text stands for as they are** are their own images. -/
theorem image_of_faithful {v : Value} (h : Faithful v) : image v = v := by
  induction h with
  | null | bool _ | int _ | float _ => rw [image]
  | text cs => rw [image, paired_ofChars]
  | @list items _ ih =>
    have hitems : items.map image = items := (List.map_congr_left ih).trans (List.map_id items)
    rw [image, itemsImage_eq, hitems]
  | @record entries hapart hkeys _ ih =>
    have hentries : entries.map (fun e => (e.1, image e.2)) = entries :=
      (List.map_congr_left fun e he => congrArg (Prod.mk e.1) (ih e he)).trans (List.map_id' _)
    rw [image, @entriesImage_eq entries [] hapart hkeys, List.nil_append, hentries]

/-- The keys of a record of members with distinct names are apart. -/
lemma apart_of_distinct {members : Members} (h : members.keys.Nodup) :
    (Keyed.keys (members.map fun (name, v) => (Value.text name, v))).Pairwise
      fun k k' => (k == k') = false := by
  rw [Keyed.keys, List.map_map, List.pairwise_map]
  refine (List.pairwise_map.1 h).imp fun hne => ?_
  exact Bool.eq_false_iff.2 fun hsame => hne (Value.text.inj ((Value.beq_text_iff _ _).1 hsame))

/-- **A record of named values is read back value by value**, if the names are distinct and made of
characters. -/
theorem image_ofMembers {members : Members} (hdistinct : members.keys.Nodup)
    (hnames : ∀ member ∈ members, ∃ cs, member.1 = .ofChars cs) :
    image (.ofMembers members) = .ofMembers (members.map fun (name, v) => (name, image v)) := by
  have hkeys : ∀ e ∈ members.map (fun (name, v) => (Value.text name, v)),
      ∃ cs, e.1 = .text (.ofChars cs) := by
    intro e he
    obtain ⟨member, hmember, rfl⟩ := List.mem_map.1 he
    exact (hnames member hmember).imp fun _ h => congrArg Value.text h
  rw [Value.ofMembers, image, @entriesImage_eq _ [] (apart_of_distinct hdistinct) hkeys,
    List.nil_append, List.map_map, Value.ofMembers, List.map_map]
  rfl

/-! ### Printable characters -/

/-- Digits are printable. -/
lemma plain_digit {c : Char} (h : Decimal.isDigit c = true) : IsPlainAscii c := by
  obtain ⟨d, hd, rfl⟩ := Numeral.exists_digitChar h
  have hall : ∀ d < 10, IsPlainAscii (Numeral.digitChar d) := by
    decide
  exact hall d hd

/-- Numerals are printable. -/
lemma plain_ofInt (n : Int) : ∀ c ∈ Numeral.ofInt n, IsPlainAscii c := by
  intro c hc
  rcases Decimal.isPlainMark_of_mem_ofInt n c hc with hdigit | rfl
  · exact plain_digit hdigit
  · decide

/-- The characters of the texts of numbers are printable. -/
lemma plain_mark {c : Char} (h : Binary64.IsMark c) : IsPlainAscii c := by
  rcases h with hdigit | hsign | hlower
  · exact plain_digit hdigit
  · have hall : ∀ d ∈ ['.', '+', '-'], IsPlainAscii d := List.all_iff_forall_prop.1 (by decide)
    exact hall c hsign
  · obtain ⟨hfirst, hlast⟩ := Bool.and_eq_true_iff.1 hlower
    have hlow := UInt32.le_iff_toNat_le.1 (of_decide_eq_true hfirst)
    have hhigh := UInt32.le_iff_toNat_le.1 (of_decide_eq_true hlast)
    exact ⟨Nat.le_trans (by decide) hlow, Nat.le_trans hhigh (by decide)⟩

/-- The texts of floating-point numbers are printable. -/
lemma plain_float (x : Binary64) : ∀ c ∈ (x.textWith spelling).toList, IsPlainAscii c := by
  cases x with
  | finite x =>
    have hmagnitude : ∀ c ∈ x.magnitudeText, IsPlainAscii c := fun c hc =>
      plain_mark (x.isMark_of_mem_magnitudeText c hc)
    rw [toList_textWith_finite]
    split
    · exact List.forall_mem_cons.2 ⟨by decide, hmagnitude⟩
    · exact hmagnitude
  | infinite negative => cases negative <;> exact List.all_iff_forall_prop.1 (by decide)
  | notANumber => exact List.all_iff_forall_prop.1 (by decide)

/-- The text of the items of a list is printable if the texts of all items are. -/
lemma plain_itemsChars {items : List Value}
    (h : ∀ v ∈ items, ∀ c ∈ valueChars v, IsPlainAscii c) :
    ∀ c ∈ itemsChars items, IsPlainAscii c := by
  induction items with
  | nil => exact List.forall_mem_nil _
  | cons v vs ih =>
    obtain ⟨hv, hvs⟩ := List.forall_mem_cons.1 h
    cases vs with
    | nil => exact hv
    | cons w vs =>
      have hchars : itemsChars (v :: w :: vs) =
          valueChars v ++ ',' :: ' ' :: itemsChars (w :: vs) := by simp [itemsChars]
      rw [hchars, List.forall_mem_append, List.forall_mem_cons, List.forall_mem_cons]
      exact ⟨hv, by decide, by decide, ih hvs⟩

/-- The text of the entries of a record is printable if the texts of all values are. -/
lemma plain_entriesChars {es : Entries} (h : ∀ e ∈ es, ∀ c ∈ valueChars e.2, IsPlainAscii c) :
    ∀ c ∈ entriesChars es, IsPlainAscii c := by
  induction es with
  | nil => exact List.forall_mem_nil _
  | cons e es ih =>
    obtain ⟨key, v⟩ := e
    obtain ⟨(hv : ∀ c ∈ valueChars v, IsPlainAscii c), hes⟩ := List.forall_mem_cons.1 h
    have hothers := ih hes
    simp only [entriesChars_cons, keyChars, List.forall_mem_cons, List.forall_mem_append]
    refine ⟨plain_stringChars _, by decide, by decide, hv, ?_⟩
    split
    · exact List.forall_mem_nil _
    · simp only [List.forall_mem_cons]
      exact ⟨by decide, by decide, hothers⟩

/-- What stands between printable characters is printable together with them. -/
lemma plain_between {first last : Char} {cs : List Char} (hfirst : IsPlainAscii first)
    (hlast : IsPlainAscii last) (h : ∀ c ∈ cs, IsPlainAscii c) :
    ∀ c ∈ first :: cs ++ [last], IsPlainAscii c := by
  rw [List.cons_append, List.forall_mem_cons, List.forall_mem_append]
  exact ⟨hfirst, h, List.forall_mem_singleton.2 hlast⟩

/-- **The JSON text of a value is printable**, so that it is one line. -/
theorem plain_valueChars (v : Value) : ∀ c ∈ valueChars v, IsPlainAscii c := by
  induction v using nested_induction with
  | list items ih | tuple items ih =>
    rw [valueChars]
    exact plain_between (by decide) (by decide) (plain_itemsChars ih)
  | record entries ih =>
    rw [valueChars]
    exact plain_between (by decide) (by decide) (plain_entriesChars ih)
  | simple v hv =>
    cases v with
    | null => exact List.all_iff_forall_prop.1 (by decide)
    | bool b => cases b <;> exact List.all_iff_forall_prop.1 (by decide)
    | int n => exact plain_ofInt n
    | float x => exact plain_float x
    | list _ | tuple _ | record _ => cases hv
    | _ => exact plain_stringChars _

end TableClient.Json
