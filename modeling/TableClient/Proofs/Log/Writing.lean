import TableClient.Log.Journal
import TableClient.Proofs.Log.Entries

set_option relaxedAutoImplicit false
set_option autoImplicit false

/-!
# Entries that are written

An entry of a component of the program is written to the file of the component when its level is
kept, and to the file of errors as well when it is severe; it is refused only when its line cannot
be put together. Writing changes nothing but the lines and the time of the next entry, so that the
order of writing and of reading the timer does not matter.

## Main definitions

* `TableClient.Log.Readings.along` — things in order, each with a reading of its own.
* `TableClient.Log.Journal.enter`, `TableClient.Log.Journal.enterAll` — writing an entry that is not
  refused, and several.
* `TableClient.Log.Journal.refusal?`, `TableClient.Log.Journal.admitted` — why an entry is refused,
  and the entries that are not.
* `TableClient.Log.Entry.GoesTo` — the entries whose component is looked up as one file.
* `TableClient.Log.Journal.linesOf`, `TableClient.Log.Journal.lineOf` — the lines of a file, and the
  line of an entry at a time.
* `TableClient.Log.Journal.stamped` — the entries that are kept, each with its time.
* `TableClient.Log.Journal.Detailed` — the journals that keep entries of all levels in files.
* `TableClient.Log.Recordable` — the details that a component can log.
* `TableClient.Log.startedEntry`, `TableClient.Log.completedEntry` — the entries around a block.

## Main results

* `TableClient.Log.Journal.tryWrite_eq`, `TableClient.Log.Journal.refusal?_eq` — an entry is written
  to its file, or it is refused because of its line.
* `TableClient.Log.Journal.record_eq_admitted`, `TableClient.Log.Journal.record_eq` — what a
  component records is written unless it is refused, and entries of recordable details are not.
* `TableClient.Log.track_eq_of_written`, `TableClient.Log.track_eq` — a tracked block is the block
  between its two entries.
* `TableClient.Log.Journal.linesOf_enterAll`, `TableClient.Log.Journal.linesOf_errors_enterAll` —
  the lines that entries add to their file, and to the file of errors.
* `TableClient.Log.Journal.Detailed.readFrom_lineOf` — the line of an entry is read back.
-/

namespace TableClient.Log

/-! ### Readings -/

/-- Things in order, each with a reading of its own. -/
def Readings.along {α β : Type} : Readings β → List α → List (α × β)
  | _, [] => []
  | r, a :: as => (a, r.next) :: r.rest.along as

/-- The things that have readings are those in order. -/
@[simp] lemma Readings.map_fst_along {α β : Type} (r : Readings β) (as : List α) :
    (r.along as).map Prod.fst = as := by
  induction as generalizing r with
  | nil => rfl
  | cons a as ih => exact congrArg (a :: ·) (ih r.rest)

/-- One copy each of what a condition holds of. -/
lemma flatMap_replicate_ite {α β : Type} (p : α → Bool) (f : α → β) (as : List α) :
    as.flatMap (fun a => List.replicate (if p a then 1 else 0) (f a)) = (as.filter p).map f := by
  induction as with
  | nil => rfl
  | cons a as ih =>
    rw [List.flatMap_cons, ih, List.filter_cons]
    split <;> rfl

/-- The file of a component. -/
def Component.file : Component → File
  | requests | query => .requests
  | config => .system

/-! ### Writing an entry -/

namespace Journal

/-- The files that an entry for a file goes to, by its level. -/
def placesOf (j : Journal) (own : File) (level : Level) : List File :=
  if j.keeps level then
    match j.routing with
    | .stream => [.stream]
    | .files => withErrors [own] level
  else []

/-- The journal with an entry for a file, if entries of its level are kept. -/
def enter (j : Journal) (own : File) (e : Entry) : Journal := j.put (j.placesOf own e.level) e

/-- The journal with several entries for a file. -/
def enterAll (j : Journal) (own : File) (es : List Entry) : Journal := es.foldl (·.enter own ·) j

/-- The journal after the timer was read. -/
def afterTimer (j : Journal) : Journal := j.readTimer.2

/-- The journal after the timer was read several times. -/
def afterTimers (j : Journal) : Nat → Journal
  | 0 => j
  | n + 1 => (j.afterTimers n).afterTimer

/-- Why an entry is refused, if it is. -/
def refusal? (j : Journal) (e : Entry) : Option Fault :=
  match j.destinations e with
  | .error f => some f
  | .ok _ => none

/-- Those of several entries that are not refused. -/
def admitted (j : Journal) (es : List Entry) : List Entry :=
  es.filter fun e => (j.refusal? e).isNone

/-- The entries that are kept, each with the time that it is stamped with. -/
def stamped (j : Journal) (es : List Entry) : List (Entry × DateTime) :=
  j.clock.day.along (es.filter fun e => j.keeps e.level)

/-- The line of an entry with its time and the correlation id of the journal. -/
def lineOf (j : Journal) (s : Entry × DateTime) : String := s.1.line s.2 j.correlation

/-- The lines of a file, in order. -/
def linesOf (j : Journal) (f : File) : List String := (j.lines.filter (·.1 = f)).map (·.2)

/-- A journal that keeps entries of all levels in files. -/
structure Detailed (j : Journal) : Prop where
  files : j.routing = .files
  threshold : j.threshold ≤ Level.debug.number

/-- The beginning of a day. -/
def morning : DateTime :=
  ⟨⟨2024, 1, 1, by decide, by decide, by decide⟩,
    ⟨0, 0, 0, 0, by decide, by decide, by decide, by decide⟩, none⟩

/-- A journal in files that keeps entries of all levels, with clocks that stand still. -/
def plain : Journal := .empty .files Level.debug.number ⟨⟨morning, []⟩, ⟨.ofInt 0, []⟩⟩

/-- The journal in files keeps entries of all levels. -/
lemma detailed_plain : plain.Detailed := ⟨rfl, Int.le_refl _⟩

/-- A journal with the settings and the correlation id of another one. -/
structure Alike (j j' : Journal) : Prop where
  routing : j'.routing = j.routing
  threshold : j'.threshold = j.threshold
  correlation : j'.correlation = j.correlation

variable {j j' j'' : Journal} {own : File} {e : Entry} {es : List Entry}

/-- An entry in no file changes nothing. -/
lemma put_nil (j : Journal) (e : Entry) : j.put [] e = j := rfl

/-! ### What writing leaves alone -/

@[simp] lemma admitted_nil : j.admitted [] = [] := rfl

@[simp] lemma enterAll_nil : j.enterAll own [] = j := rfl

@[simp] lemma enterAll_cons : j.enterAll own (e :: es) = (j.enter own e).enterAll own es := rfl

lemma enterAll_append (es es' : List Entry) :
    j.enterAll own (es ++ es') = (j.enterAll own es).enterAll own es' := List.foldl_append

/-- A journal is like itself. -/
lemma Alike.refl (j : Journal) : j.Alike j := ⟨rfl, rfl, rfl⟩

/-- A journal is like what one like it is like. -/
lemma Alike.trans (h : j.Alike j') (h' : j'.Alike j'') : j.Alike j'' :=
  ⟨h'.routing.trans h.routing, h'.threshold.trans h.threshold, h'.correlation.trans h.correlation⟩

/-- A journal like one that keeps all entries keeps all entries. -/
lemma Alike.detailed (h : j.Alike j') (hj : j.Detailed) : j'.Detailed :=
  ⟨h.routing.trans hj.files, h.threshold ▸ hj.threshold⟩

/-- Journals that are alike keep the same entries. -/
lemma Alike.keeps_eq (h : j.Alike j') : j'.keeps = j.keeps := by
  funext level
  rw [keeps, keeps, h.routing, h.threshold]

/-- Journals that are alike write an entry as the same line. -/
lemma Alike.lineOf_eq (h : j.Alike j') : j'.lineOf = j.lineOf := by
  funext s
  rw [lineOf, lineOf, h.correlation]

/-- Journals that are alike can put together the same lines. -/
lemma Alike.lineFault?_eq (h : j.Alike j') : j'.lineFault? = j.lineFault? := by
  funext e
  rw [lineFault?, lineFault?, h.correlation, e.fault?_eq_of_now]

/-- **Journals that are alike send entries to the same files**, and refuse the same. -/
theorem Alike.destinations_eq (h : j.Alike j') : j'.destinations = j.destinations := by
  funext e
  rw [destinations, destinations, h.lineFault?_eq, h.routing, h.keeps_eq]

/-- Journals that are alike refuse the same entries. -/
lemma Alike.refusal?_eq (h : j.Alike j') : j'.refusal? = j.refusal? := by
  funext e
  rw [refusal?, refusal?, h.destinations_eq]

/-- Journals that are alike admit the same entries. -/
lemma Alike.admitted_eq (h : j.Alike j') : j'.admitted = j.admitted := by
  funext es
  rw [admitted, admitted, h.refusal?_eq]

/-- Putting an entry into files changes the lines and the clock only. -/
lemma alike_put (j : Journal) (files : List File) (e : Entry) : j.Alike (j.put files e) := by
  unfold put
  split <;> exact ⟨rfl, rfl, rfl⟩

/-- Writing an entry changes the lines and the clock only. -/
lemma alike_enter (j : Journal) (own : File) (e : Entry) : j.Alike (j.enter own e) :=
  j.alike_put _ e

/-- Writing entries changes the lines and the clock only. -/
lemma alike_enterAll (j : Journal) (own : File) (es : List Entry) :
    j.Alike (j.enterAll own es) := by
  induction es generalizing j with
  | nil => exact .refl j
  | cons e es ih => exact (j.alike_enter own e).trans (ih _)

/-- Reading the timer changes the timer only. -/
lemma alike_afterTimer (j : Journal) : j.Alike j.afterTimer := ⟨rfl, rfl, rfl⟩

/-- Reading the timer several times changes the timer only. -/
lemma alike_afterTimers (j : Journal) (n : Nat) : j.Alike (j.afterTimers n) := by
  induction n with
  | zero => exact .refl j
  | succ n ih => exact ih.trans (alike_afterTimer _)

/-- Readings of the timer are counted. -/
lemma afterTimers_add (j : Journal) (m n : Nat) :
    j.afterTimers (m + n) = (j.afterTimers m).afterTimers n := by
  induction n with
  | zero => rfl
  | succ n ih => exact congrArg afterTimer ih

/-- The timer is read before or after an entry is written with the same result. -/
lemma readTimer_enter (j : Journal) (own : File) (e : Entry) :
    (j.enter own e).readTimer = (j.readTimer.1, j.afterTimer.enter own e) := by
  have hplaces : j.afterTimer.placesOf own e.level = j.placesOf own e.level := rfl
  rw [enter, enter, hplaces]
  unfold put
  split <;> rfl

/-- The timer is read before or after entries are written with the same result. -/
lemma readTimer_enterAll (j : Journal) (own : File) (es : List Entry) :
    (j.enterAll own es).readTimer = (j.readTimer.1, j.afterTimer.enterAll own es) := by
  induction es generalizing j with
  | nil => rfl
  | cons e es ih =>
    rw [enterAll_cons, ih, afterTimer, readTimer_enter]
    rfl

/-- The timer is read several times before or after entries are written. -/
lemma afterTimers_enterAll (j : Journal) (own : File) (es : List Entry) (n : Nat) :
    (j.enterAll own es).afterTimers n = (j.afterTimers n).enterAll own es := by
  induction n with
  | zero => rfl
  | succ n ih =>
    rw [afterTimers, ih, afterTimer, readTimer_enterAll]
    rfl

/-! ### Where an entry goes -/

/-- Whether the line of an entry of a level is put together. A stream is given all lines. -/
def examines (j : Journal) (level : Level) : Bool := j.routing = .stream || j.keeps level

end Journal

/-- An entry whose component is looked up as one file. -/
def Entry.GoesTo (e : Entry) (own : File) : Prop :=
  Journal.filesOf e.level ((e.details.get? "component").getD .null) =
    .ok (Journal.withErrors [own] e.level)

/-- An entry that names a component of the program goes to the file of the component. -/
lemma Entry.goesTo_component {e : Entry} {component : Component}
    (h : e.details.get? "component" = some (.text component.name)) : e.GoesTo component.file := by
  rw [GoesTo, h]
  cases component <;> rfl

namespace Journal

variable {j : Journal} {own : File} {e : Entry}

/-- **Where an entry goes**: to the places of its file, unless it is refused. -/
theorem destinations_eq (j : Journal) (h : e.GoesTo own) :
    j.destinations e =
      match j.refusal? e with
      | some f => .error f
      | none => .ok (j.placesOf own e.level) := by
  have hplaces {files : List File} (hfiles : j.destinations e = .ok files) :
      files = j.placesOf own e.level := by
    unfold destinations at hfiles
    rw [h] at hfiles
    unfold placesOf
    grind
  unfold refusal?
  cases hfiles : j.destinations e with
  | error f => rfl
  | ok files => exact congrArg Except.ok (hplaces hfiles)

/-- **An entry is written to its file, or it is refused.** -/
theorem tryWrite_eq (j : Journal) (h : e.GoesTo own) :
    j.tryWrite e =
      match j.refusal? e with
      | some f => (.error f, j)
      | none => (.ok (), j.enter own e) := by
  rw [tryWrite, write, j.destinations_eq h]
  cases j.refusal? e <;> rfl

/-- An admitted entry is not refused. -/
lemma refusal?_of_mem_admitted {j : Journal} {es : List Entry} (h : e ∈ j.admitted es) :
    j.refusal? e = none :=
  Option.isNone_iff_eq_none.1 (List.mem_filter.1 h).2

/-- **An entry with details that are allowed is refused when its line cannot be put together.** -/
theorem refusal?_eq (j : Journal)
    (hreserved : reservedNames.any (fun name => e.details.has name) = false) (h : e.GoesTo own) :
    j.refusal? e = if j.examines e.level then (j.lineFault? e).map .unwritable else none := by
  unfold refusal? destinations examines
  rw [hreserved, if_neg Bool.false_ne_true, h]
  cases j.routing with
  | stream => cases j.lineFault? e <;> rfl
  | files => cases j.keeps e.level <;> cases j.lineFault? e <;> rfl

/-- An entry whose parts can be written is not refused. -/
lemma refusal?_of_writable (j : Journal)
    (hreserved : reservedNames.any (fun name => e.details.has name) = false) (h : e.GoesTo own)
    (hline : e.Writable) : j.refusal? e = none := by
  rw [j.refusal?_eq hreserved h, lineFault?, hline.fault?_eq_none]
  exact ite_self none

/-- An entry whose parts can be written is written. -/
lemma tryWrite_of_writable (j : Journal)
    (hreserved : reservedNames.any (fun name => e.details.has name) = false) (h : e.GoesTo own)
    (hline : e.Writable) : j.tryWrite e = (.ok (), j.enter own e) := by
  rw [j.tryWrite_eq h, j.refusal?_of_writable hreserved h hline]

end Journal

/-- Details that a component can log: none has a reserved name, and their values can be written. -/
structure Recordable (details : Members) : Prop where
  unreserved : reservedNames.any (fun name => details.has name) = false
  writable : ∀ detail ∈ details, Json.fault? detail.2 (maxNesting - 1) = none

/-- Details before others have no reserved name if neither have one. -/
lemma unreserved_append {details details' : Members}
    (h : reservedNames.any (fun name => details.has name) = false)
    (h' : reservedNames.any (fun name => details'.has name) = false) :
    reservedNames.any (fun name => Keyed.has (details ++ details') name) = false := by
  simp only [List.any_eq_false, Bool.not_eq_true] at h h' ⊢
  intro name hname
  rw [Keyed.has_append, h name hname, h' name hname, Bool.or_self]

/-- Details before others can be logged if both can. -/
lemma Recordable.append {details details' : Members} (h : Recordable details)
    (h' : Recordable details') : Recordable (details ++ details') :=
  ⟨unreserved_append h.unreserved h'.unreserved,
    List.forall_mem_append.2 ⟨h.writable, h'.writable⟩⟩

/-- A text can be logged under a name that is not reserved. -/
lemma recordable_text {name t : Text}
    (hname : reservedNames.any (Keyed.has [(name, Value.text t)] ·) = false) :
    Recordable [(name, .text t)] :=
  ⟨hname, List.forall_mem_singleton.2 (Json.fault?_text t _)⟩

/-- The entry of a component goes to the file of the component. -/
lemma Component.goesTo_entry (component : Component) (level : Level) (message : String)
    (details : Members) : (component.entry level message details).GoesTo component.file :=
  Entry.goesTo_component rfl

/-- The entry of a component with details that can be logged has no reserved names, and its parts
can be written. -/
lemma Recordable.entry {details : Members} (h : Recordable details) (component : Component)
    (level : Level) (message : String) :
    reservedNames.any (fun name => (component.entry level message details).details.has name) =
        false ∧ (component.entry level message details).Writable := by
  have hboth := @Recordable.append [("component", .text component.name)] details
    (recordable_text rfl) h
  exact ⟨hboth.unreserved, Json.fault?_text _ _, hboth.writable⟩

namespace Journal

variable {j j' j'' : Journal} {own : File} {e : Entry} {es : List Entry}

/-- **What a component records is written to the file of the component**, unless it is refused. -/
theorem record_eq_admitted (j : Journal) (component : Component) (level : Level) (message : String)
    (details : Members) :
    j.record component level message details =
      j.enterAll component.file (j.admitted [component.entry level message details]) := by
  rw [record, j.tryWrite_eq (component.goesTo_entry level message details), admitted,
    List.filter_singleton]
  cases j.refusal? (component.entry level message details) <;> rfl

/-- An entry of a component with details that can be logged is not refused. -/
lemma refusal?_of_recordable {details : Members} (j : Journal) (h : Recordable details)
    (component : Component) (level : Level) (message : String) :
    j.refusal? (component.entry level message details) = none := by
  obtain ⟨hreserved, hline⟩ := h.entry component level message
  exact j.refusal?_of_writable hreserved (component.goesTo_entry level message details) hline

/-- **An entry of recordable details is written to the file of its component.** -/
theorem record_eq {details : Members} (j : Journal) (h : Recordable details)
    (component : Component) (level : Level) (message : String) :
    j.record component level message details =
      j.enter component.file (component.entry level message details) := by
  rw [record_eq_admitted, admitted, List.filter_singleton, j.refusal?_of_recordable h]
  rfl

/-! ### The lines of a file -/

/-- Reading the timer adds no lines and leaves the day alone. -/
lemma afterTimers_lines (j : Journal) (n : Nat) :
    (j.afterTimers n).lines = j.lines ∧ (j.afterTimers n).clock.day = j.clock.day := by
  induction n with
  | zero => exact ⟨rfl, rfl⟩
  | succ n ih => exact ih

/-- Reading the timer adds no lines to a file. -/
lemma linesOf_afterTimers (j : Journal) (n : Nat) (f : File) :
    (j.afterTimers n).linesOf f = j.linesOf f := by
  rw [linesOf, (j.afterTimers_lines n).1, linesOf]

/-- The lines of a file after an entry was put into files. -/
lemma linesOf_put (j : Journal) (files : List File) (e : Entry) (f : File) :
    (j.put files e).linesOf f =
      j.linesOf f ++ List.replicate (files.count f) (j.lineOf (e, j.clock.day.next)) := by
  unfold put
  split
  · rename_i hnone
    rw [List.isEmpty_iff.1 hnone, List.count_nil, List.replicate_zero, List.append_nil]
  · rw [linesOf, List.filter_append, List.map_append, List.filter_map, List.map_map,
      List.count_eq_length_filter, ← List.map_const']
    simp only [Function.comp_def]
    rfl

/-- An entry that is kept takes up one reading of the day. -/
lemma day_enter (own : File) (h : j.keeps e.level = true) :
    (j.enter own e).clock.day = j.clock.day.rest := by
  have hfiles : (j.placesOf own e.level).isEmpty = false := by
    rw [placesOf, h, if_pos rfl, withErrors]
    cases j.routing with
    | stream => rfl
    | files => cases isSevere e.level <;> rfl
  rw [enter, put, hfiles, if_neg Bool.false_ne_true]

/-- An entry that is not kept changes nothing. -/
lemma enter_of_unkept (own : File) (h : j.keeps e.level = false) : j.enter own e = j := by
  rw [enter, placesOf, h, if_neg Bool.false_ne_true, put_nil]

/-- The times of entries behind one that is kept follow its own. -/
lemma stamped_cons (j : Journal) (own : File) (e : Entry) (es : List Entry) :
    j.stamped (e :: es) =
      (if j.keeps e.level then [(e, j.clock.day.next)] else []) ++ (j.enter own e).stamped es := by
  have hkeeps := (j.alike_enter own e).keeps_eq
  unfold stamped
  rw [hkeeps, List.filter_cons]
  cases hlevel : j.keeps e.level with
  | false =>
    rw [enter_of_unkept own hlevel, if_neg Bool.false_ne_true, if_neg Bool.false_ne_true,
      List.nil_append]
  | true =>
    rw [day_enter own hlevel, if_pos rfl, if_pos rfl, List.singleton_append, Readings.along]

/-- An entry has as many lines in a file as it has places there. -/
lemma linesOf_enter (j : Journal) (own f : File) (e : Entry) :
    (j.enter own e).linesOf f =
      j.linesOf f ++ List.replicate ((j.placesOf own e.level).count f)
        (j.lineOf (e, j.clock.day.next)) :=
  j.linesOf_put _ e f

/-- **Entries have as many lines in a file as they have places there**, in order. -/
theorem linesOf_enterAll_count (j : Journal) (own f : File) (es : List Entry) :
    (j.enterAll own es).linesOf f =
      j.linesOf f ++ (j.stamped es).flatMap fun s =>
        List.replicate ((j.placesOf own s.1.level).count f) (j.lineOf s) := by
  induction es generalizing j with
  | nil => exact (List.append_nil _).symm
  | cons e es ih =>
    have halike := j.alike_enter own e
    have hplaces : (j.enter own e).placesOf own = j.placesOf own := by
      funext level
      rw [placesOf, placesOf, halike.keeps_eq, halike.routing]
    rw [enterAll_cons, ih, linesOf_enter, halike.lineOf_eq, hplaces, List.append_assoc,
      j.stamped_cons own, List.flatMap_append]
    cases hlevel : j.keeps e.level with
    | false => simp [placesOf, hlevel]
    | true => simp

/-- A journal that keeps entries of all levels keeps an entry. -/
lemma Detailed.keeps_eq (hj : j.Detailed) (level : Level) : j.keeps level = true := by
  have hlevel : Level.debug.number ≤ level.number := by
    cases level <;> decide
  rw [keeps, hj.files]
  exact decide_eq_true (Int.le_trans hj.threshold hlevel)

/-- A journal that keeps entries of all levels puts all lines together. -/
lemma Detailed.examines_eq (hj : j.Detailed) (level : Level) : j.examines level = true := by
  rw [examines, hj.keeps_eq, Bool.or_true]

/-- A journal that keeps entries of all levels stamps all of them. -/
lemma Detailed.stamped_eq (hj : j.Detailed) (es : List Entry) :
    j.stamped es = j.clock.day.along es := by
  rw [stamped, List.filter_eq_self.2 fun e _ => hj.keeps_eq e.level]

/-- The places of an entry in a journal that keeps entries of all levels. -/
lemma Detailed.count_placesOf (hj : j.Detailed) (own f : File) (level : Level) :
    (j.placesOf own level).count f = (withErrors [own] level).count f := by
  rw [placesOf, hj.keeps_eq, if_pos rfl, hj.files]

/-- The line of an entry that a journal admits can be put together if it keeps all entries. -/
lemma Detailed.lineFault?_eq_none (hj : j.Detailed) (h : j.refusal? e = none) :
    j.lineFault? e = none := by
  unfold refusal? destinations at h
  rw [hj.files, hj.keeps_eq] at h
  grind

/-- **The line of an entry that is admitted is read back**, whatever the entry is stamped with. -/
theorem Detailed.readFrom_lineOf (hj : j.Detailed) (h : j.refusal? e = none) (now : DateTime) :
    e.ReadFrom now j.correlation (j.lineOf (e, now)) := by
  have hline : e.fault? now j.correlation = none := by
    rw [e.fault?_eq_of_now j.clock.day.next]
    exact hj.lineFault?_eq_none h
  exact Entry.read_line hline

/-- **Entries are one line of their file each**, in order. -/
theorem linesOf_enterAll (hj : j.Detailed) (hown : own ≠ .errors) (es : List Entry) :
    (j.enterAll own es).linesOf own =
      j.linesOf own ++ (j.clock.day.along es).map j.lineOf := by
  have hone (level : Level) : (withErrors [own] level).count own = 1 := by
    rw [withErrors]
    split <;> simp [hown.symm]
  rw [linesOf_enterAll_count, hj.stamped_eq, List.map_eq_flatMap]
  simp only [hj.count_placesOf, hone, List.replicate_one]

/-- **The severe ones among entries are one line of the file of errors each**, in order. -/
theorem linesOf_errors_enterAll (hj : j.Detailed) (hown : own ≠ .errors) (es : List Entry) :
    (j.enterAll own es).linesOf .errors =
      j.linesOf .errors ++
        ((j.clock.day.along es).filter fun s => isSevere s.1.level).map j.lineOf := by
  have hcount (level : Level) :
      (withErrors [own] level).count .errors = if isSevere level then 1 else 0 := by
    rw [withErrors]
    split <;> simp [hown]
  rw [linesOf_enterAll_count, hj.stamped_eq]
  simp only [hj.count_placesOf, hcount]
  rw [flatMap_replicate_ite fun s : Entry × DateTime => isSevere s.1.level]

end Journal

/-! ### Tracked blocks -/

/-- The entry that a block has started. -/
def startedEntry (operation : Value) (context : Members) : Entry :=
  ⟨.debug, .text (operation.shown ++ "_started"), ("operation", operation) :: context⟩

/-- The entry that a block has ended, with the seconds between two readings of the timer. -/
def completedEntry (operation : Value) (context : Members) (start stop : Binary64) : Entry :=
  ⟨.info, .text (operation.shown ++ "_completed"), ("operation", operation) ::
    ("duration_seconds", .float ((stop.sub start).roundPlaces 3)) :: context⟩

/-- A context that can be put into the entries around a block: it names a component of the program,
and none of its names is taken. -/
structure Trackable (context : Members) (component : Component) : Prop where
  component : context.get? "component" = some (.text component.name)
  recordable : Recordable context
  untaken : context.has "operation" = false
  untimed : context.has "duration_seconds" = false

namespace Trackable

variable {context details : Members} {component : Component}

/-- An entry with details before those of a context goes to the file of the component. -/
lemma goesTo (h : Trackable context component) (hcomponent : details.get? "component" = none)
    (level : Level) (message : Value) :
    Entry.GoesTo ⟨level, message, details ++ context⟩ component.file := by
  refine Entry.goesTo_component ?_
  show Keyed.get? (details ++ context) "component" = some (.text component.name)
  rw [Keyed.get?_append, hcomponent]
  exact h.component

/-- An entry with details before those of a context is not refused. -/
lemma refusal?_eq_none (h : Trackable context component) (hdetails : Recordable details)
    (hcomponent : details.get? "component" = none) (level : Level) (t : Text) (j : Journal) :
    j.refusal? ⟨level, .text t, details ++ context⟩ = none := by
  have hboth := hdetails.append h.recordable
  exact j.refusal?_of_writable hboth.unreserved (h.goesTo hcomponent level (.text t))
    ⟨Json.fault?_text _ _, hboth.writable⟩

/-- The entry that a block has started is written to the file of the component. -/
lemma started (h : Trackable context component) (operation : Text) (j : Journal) :
    j.refusal? (startedEntry (.text operation) context) = none ∧
      (startedEntry (.text operation) context).GoesTo component.file := by
  have hoperation : Recordable [("operation", .text operation)] := recordable_text rfl
  exact ⟨h.refusal?_eq_none hoperation rfl _ _ j,
    @goesTo context [("operation", .text operation)] _ h rfl _ _⟩

/-- The entry that a block has ended is written to the file of the component. -/
lemma completed (h : Trackable context component) (operation : Text) (start stop : Binary64)
    (j : Journal) :
    j.refusal? (completedEntry (.text operation) context start stop) = none ∧
      (completedEntry (.text operation) context start stop).GoesTo component.file := by
  let duration : Text × Value :=
    ("duration_seconds", .float ((stop.sub start).roundPlaces 3))
  have hoperation : Recordable [("operation", .text operation)] := recordable_text rfl
  have hduration : Recordable [duration] :=
    ⟨rfl, List.forall_mem_singleton.2 (Json.fault?_float _ _)⟩
  exact ⟨h.refusal?_eq_none (hoperation.append hduration) rfl _ _ j,
    @goesTo context [("operation", .text operation), duration] _ h rfl _ _⟩

end Trackable

/-- **A tracked block is the block between its two entries** if these are written to a file whatever
the readings of the timer are. -/
theorem track_eq_of_written {σ ε α : Type} [Journaled σ] {refuse : Fault → ε} {operation : Value}
    {context : Members} {own : File} (hself : context.has "self" = false)
    (huntaken : context.has "operation" = false) (huntimed : context.has "duration_seconds" = false)
    (hshown : operation.showFault? maxNesting = none)
    (hstarted : ∀ j : Journal, j.tryWrite (startedEntry operation context) =
      (.ok (), j.enter own (startedEntry operation context)))
    (hcompleted : ∀ (j : Journal) (start stop : Binary64),
      j.tryWrite (completedEntry operation context start stop) =
        (.ok (), j.enter own (completedEntry operation context start stop)))
    (block : σ → Except ε α × σ) (s : σ) :
    track refuse operation context block s =
      let j := Journaled.journal s
      let ended := block (Journaled.withJournal s
        (j.afterTimer.enter own (startedEntry operation context)))
      let j' := Journaled.journal ended.2
      (ended.1, Journaled.withJournal ended.2 (j'.afterTimer.enter own
        (completedEntry operation context j.readTimer.1 j'.readTimer.1))) := by
  unfold track
  rw [hself, huntaken, Bool.or_self, if_neg Bool.false_ne_true, hshown]
  dsimp only
  rw [← startedEntry, hstarted]
  dsimp only
  rw [huntimed, if_neg Bool.false_ne_true, ← completedEntry, hcompleted]
  rfl

/-- **A tracked block with a text as operation is the block between its two entries** in the file of
a component. -/
theorem track_eq {σ ε α : Type} [Journaled σ] {refuse : Fault → ε} {operation : Text}
    {context : Members} {component : Component} (h : Trackable context component)
    (block : σ → Except ε α × σ) (s : σ) :
    track refuse (.text operation) context block s =
      let j := Journaled.journal s
      let ended := block (Journaled.withJournal s
        (j.afterTimer.enter component.file (startedEntry (.text operation) context)))
      let j' := Journaled.journal ended.2
      (ended.1, Journaled.withJournal ended.2 (j'.afterTimer.enter component.file
        (completedEntry (.text operation) context j.readTimer.1 j'.readTimer.1))) := by
  have hself : context.has "self" = false := by
    simpa using List.any_eq_false.1 h.recordable.unreserved "self" (List.mem_cons_self ..)
  have hstarted (j : Journal) :
      j.tryWrite (startedEntry (.text operation) context) =
        (.ok (), j.enter component.file (startedEntry (.text operation) context)) := by
    rw [j.tryWrite_eq (h.started operation j).2, (h.started operation j).1]
  have hcompleted (j : Journal) (start stop : Binary64) :
      j.tryWrite (completedEntry (.text operation) context start stop) =
        (.ok (), j.enter component.file (completedEntry (.text operation) context start stop)) := by
    have h' := h.completed operation start stop j
    rw [j.tryWrite_eq h'.2, h'.1]
  exact track_eq_of_written hself h.untaken h.untimed rfl hstarted hcompleted block s

end TableClient.Log
