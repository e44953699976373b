import TableClient.Log.Session
import TableClient.Proofs.Log.Writing

set_option relaxedAutoImplicit false
set_option autoImplicit false

/-!
# Where entries go

An entry that a journal in files keeps belongs in one file of its own, which is the file of requests
for two components and the file of the system for all others, and in the file of errors when it is
severe. The files of several entries ought to get the lines of the entries that belong in them, each
once and in order.

They do, but for one component: `_errors`, the name that the file of errors itself is kept under.
Its entries stray: they leave no line in the file of the system, and when they are severe they leave
two in the file of errors. Besides, an entry that cannot be written is refused.

## Main definitions

* `TableClient.Log.Entry.Ordinary` — the entries that name a component by a text, or none.
* `TableClient.Log.Entry.home`, `TableClient.Log.Entry.belongs` — where an entry ought to go.
* `TableClient.Log.Journal.due`, `TableClient.Log.Journal.Routed` — the lines that entries ought to
  add to a file, and that they add them to every file.
* `TableClient.Log.Entry.copies` — how often an entry is written to a file.
* `TableClient.Log.Journal.answer`, `TableClient.Log.Journal.added` — how entries are answered, and
  the lines that they add to a file.
* `TableClient.Log.Journal.sends` — whether an entry is sent to a file, in files or to one stream.

## Main results

* `TableClient.Log.Journal.runStep_entry`, `TableClient.Log.Journal.linesOf_runSteps` — the lines
  that entries add to every file.
* `TableClient.Log.Entry.Ordinary.goesTo`, `TableClient.Log.Journal.linesOf_enter_home` — an entry
  that does not stray.
* `TableClient.Log.Journal.routed_iff` — entries are routed exactly when no kept one strays or
  cannot be written.
-/

namespace TableClient.Log

/-! ### Where an entry belongs -/

namespace Entry

/-- The component that an entry names. -/
def component? (e : Entry) : Option Value := e.details.get? "component"

/-- An entry with details that are allowed, which names a component by a text, or none. -/
structure Ordinary (e : Entry) : Prop where
  unreserved : reservedNames.any (fun name => e.details.has name) = false
  named : e.component? = none ∨ ∃ name : Text, e.component? = some (.text name)

/-- Logging an entry, as a step of a session. -/
def step (ρ : Type) (e : Entry) : Step ρ := .entry e.level e.message e.details

/-- The file that the entries of a component belong in, none being named included. -/
def homeOf : Option Value → File
  | some (.text name) => if name = "servicenow" ∨ name = "query" then .requests else .system
  | _ => .system

/-- The file that an entry belongs in. -/
def home (e : Entry) : File := homeOf e.component?

/-- Whether an entry belongs in a file: in its own one, and in that of errors when it is severe. -/
def belongs (e : Entry) (f : File) : Bool := f = e.home || (f = .errors && Journal.isSevere e.level)

/-- Whether an entry names the component that stands for the file of errors itself. -/
def strays (e : Entry) : Bool :=
  match e.component? with
  | some (.text name) => name = "_errors"
  | _ => false

/-- How often an entry is written to a file. -/
def copies (e : Entry) (f : File) : Nat :=
  if e.strays then if f = .errors ∧ Journal.isSevere e.level then 2 else 0
  else if e.belongs f then 1 else 0

variable {e : Entry}

/-- Which entries stray. -/
lemma strays_iff : e.strays = true ↔ e.component? = some (.text "_errors") := by
  unfold strays
  split
  · rename_i name hname
    simp [hname]
  · rename_i hother
    exact iff_of_false Bool.false_ne_true fun h => hother _ h

/-- An entry belongs in the file of requests or in that of the system. -/
lemma home_eq (e : Entry) : e.home = .requests ∨ e.home = .system := by
  unfold home homeOf
  split
  · split
    · exact .inl rfl
    · exact .inr rfl
  · exact .inr rfl

/-- An entry that strays belongs in the file of the system. -/
lemma home_of_strays (h : e.strays = true) : e.home = .system := by
  rw [home, strays_iff.1 h]
  rfl

/-- The files that an entry with details that are allowed is written to. -/
def files (e : Entry) : List File :=
  Journal.withErrors
    (if e.strays then if Journal.isSevere e.level then [.errors] else [] else [e.home]) e.level

/-- An entry stands once in each file that it belongs in. -/
lemma count_withErrors (e : Entry) (f : File) :
    (Journal.withErrors [e.home] e.level).count f = if e.belongs f then 1 else 0 := by
  unfold Journal.withErrors belongs
  rcases e.home_eq with hhome | hhome <;> rw [hhome] <;> cases Journal.isSevere e.level <;>
    cases f <;> rfl

/-- The files of an entry hold as many copies of it as are counted. -/
lemma count_files (e : Entry) (f : File) : e.files.count f = e.copies f := by
  rw [files, copies]
  cases e.strays with
  | false => exact e.count_withErrors f
  | true =>
    unfold Journal.withErrors
    cases Journal.isSevere e.level <;> cases f <;> rfl

/-- A component is looked up in the table of components, or else is one of the system. -/
lemma find_componentFiles (name : Text) :
    ((componentFiles.find? (name == ·.1)).map (·.2)).getD .system = homeOf (some (.text name)) := by
  unfold homeOf componentFiles
  by_cases hrequests : name = "servicenow"
  · subst hrequests
    rfl
  by_cases hquery : name = "query"
  · subst hquery
    rfl
  by_cases hsystem : name = "system"
  · subst hsystem
    rfl
  by_cases hconfig : name = "config"
  · subst hconfig
    rfl
  simp [hrequests, hquery, hsystem, hconfig]

/-- Looking the component of an entry up gives its files. -/
lemma Ordinary.filesOf_eq (h : e.Ordinary) :
    Journal.filesOf e.level (e.component?.getD .null) = .ok e.files := by
  rcases h.named with hnone | ⟨name, hname⟩
  · simp [Journal.filesOf, files, strays, home, hnone, homeOf, Value.isTruthy]
  · by_cases hempty : name.isEmpty = true
    · have hother : name ≠ "_errors" ∧ name ≠ "servicenow" ∧ name ≠ "query" := by
        refine ⟨?_, ?_, ?_⟩ <;> rintro rfl <;> cases hempty
      simp [Journal.filesOf, files, strays, home, hname, homeOf, Value.isTruthy, hempty, hother]
    · simp only [Journal.filesOf, files, strays, home, hname, Option.getD_some, Value.isTruthy,
        Value.isHashable, hempty, find_componentFiles]
      by_cases herrors : name = "_errors" <;> simp [herrors]

/-- **An entry that does not stray goes to the file that it belongs in.** -/
theorem Ordinary.goesTo (h : e.Ordinary) (hstrays : e.strays = false) : e.GoesTo e.home := by
  have hfiles : e.files = Journal.withErrors [e.home] e.level := by
    rw [files, hstrays, if_neg Bool.false_ne_true]
  rw [GoesTo, ← hfiles]
  exact h.filesOf_eq

end Entry

namespace Journal

/-- The lines that entries ought to add to a file: one for each entry that is kept and belongs in
the file, in order. -/
def due (j : Journal) (es : List Entry) (f : File) : List String :=
  ((j.stamped es).filter (·.1.belongs f)).map j.lineOf

/-- The files that an entry is written to: those that it has if it is severe enough to be kept and
its line can be put together. -/
def filesFor (j : Journal) (e : Entry) : List File :=
  if j.keeps e.level && (j.lineFault? e).isNone then e.files else []

/-- How an entry is answered: it is refused when its line is examined and cannot be put together. -/
def answer {ρ : Type} (j : Journal) (e : Entry) : Except (StepFault ρ) (Reply ρ) :=
  if j.examines e.level then
    match j.lineFault? e with
    | some f => .error (.refused (.unwritable f))
    | none => .ok .done
  else .ok .done

/-- The entries that are written, each with the time that it is stamped with. -/
def written (j : Journal) (es : List Entry) : List (Entry × DateTime) :=
  j.clock.day.along (es.filter fun e => !(j.filesFor e).isEmpty)

/-- The lines that entries add to a file. -/
def added (j : Journal) (es : List Entry) (f : File) : List String :=
  (j.written es).flatMap fun s => List.replicate (s.1.copies f) (j.lineOf s)

variable {ρ : Type} {j : Journal} {e : Entry} {es : List Entry}

/-- **One entry is answered and written to its files.** -/
theorem runStep_entry (hj : j.routing = .files) (he : e.Ordinary) :
    runStep j (e.step ρ) = (j.answer e, j.put (j.filesFor e) e) := by
  have hfiles : filesOf e.level ((e.details.get? "component").getD .null) = .ok e.files :=
    he.filesOf_eq
  have hwrite : j.tryWrite e =
      (if j.keeps e.level then
        match j.lineFault? e with
        | some f => (.error (.unwritable f), j)
        | none => (.ok (), j.put e.files e)
      else (.ok (), j)) := by
    rw [tryWrite, write, destinations, he.unreserved, if_neg Bool.false_ne_true, hj, hfiles]
    cases j.keeps e.level with
    | false => rfl
    | true => cases j.lineFault? e <;> rfl
  have hexamines : j.examines e.level = j.keeps e.level := by
    rw [examines, hj]
    rfl
  rw [Entry.step, runStep, hwrite, answer, filesFor, hexamines]
  cases j.keeps e.level with
  | false => rfl
  | true => cases j.lineFault? e <;> rfl

/-- Whether an entry is sent to a file: it is severe enough to be kept, and belongs in the file, or
all entries go to the one stream. -/
def sends (j : Journal) (e : Entry) (f : File) : Bool :=
  j.keeps e.level &&
    match j.routing with
    | .files => e.belongs f
    | .stream => f = .stream

/-- **An entry adds its line once to each file that it is sent to.** -/
theorem linesOf_enter_home (j : Journal) (e : Entry) (f : File) :
    (j.enter e.home e).linesOf f =
      j.linesOf f ++ if j.sends e f then [j.lineOf (e, j.clock.day.next)] else [] := by
  have hcount : (j.placesOf e.home e.level).count f = if j.sends e f then 1 else 0 := by
    rw [placesOf, sends]
    cases j.keeps e.level with
    | false => rfl
    | true =>
      cases j.routing with
      | stream => cases f <;> rfl
      | files => exact e.count_withErrors f
  rw [linesOf_enter, hcount]
  split <;> rfl

/-- Journals that are alike answer entries in the same way. -/
lemma Alike.answer_eq {j' : Journal} (h : j.Alike j') (e : Entry) :
    (j'.answer e : Except (StepFault ρ) (Reply ρ)) = j.answer e := by
  rw [answer, answer, examines, examines, h.routing, h.keeps_eq, h.lineFault?_eq]

/-- Journals that are alike write entries to the same files. -/
lemma Alike.filesFor_eq {j' : Journal} (h : j.Alike j') : j'.filesFor = j.filesFor := by
  funext e
  rw [filesFor, filesFor, h.keeps_eq, h.lineFault?_eq]

/-- The times of entries behind one that is written follow its own. -/
lemma written_cons (j : Journal) (e : Entry) (es : List Entry) :
    j.written (e :: es) =
      (if (j.filesFor e).isEmpty then [] else [(e, j.clock.day.next)]) ++
        (j.put (j.filesFor e) e).written es := by
  unfold written
  rw [(j.alike_put (j.filesFor e) e).filesFor_eq, List.filter_cons]
  cases hfiles : (j.filesFor e).isEmpty with
  | true =>
    have hsame : j.put (j.filesFor e) e = j := by rw [put, hfiles, if_pos rfl]
    rw [hsame]
    rfl
  | false =>
    have hday : (j.put (j.filesFor e) e).clock.day = j.clock.day.rest := by
      rw [put, hfiles, if_neg Bool.false_ne_true]
    rw [hday]
    rfl

/-- An entry that is written has a line for each copy. -/
lemma count_filesFor (j : Journal) (e : Entry) (f : File) :
    (j.filesFor e).count f = if (j.filesFor e).isEmpty then 0 else e.copies f := by
  unfold filesFor
  split
  · rw [← e.count_files]
    split
    · rename_i hnone
      rw [List.isEmpty_iff.1 hnone, List.count_nil]
    · rfl
  · rfl

/-- **The lines that entries add to every file.** All of them are answered.

**Proof sketch.** Induction on the entries: one entry adds its line as often as it has the file
among its files (`Journal.linesOf_put`), and leaves what the lines of later entries depend on as it
is, but for the time. -/
theorem linesOf_runSteps (hj : j.routing = .files) (hes : ∀ e ∈ es, e.Ordinary) :
    (runSteps j (es.map (Entry.step ρ))).1 = es.map j.answer ∧
      ∀ f, (runSteps j (es.map (Entry.step ρ))).2.linesOf f = j.linesOf f ++ j.added es f := by
  induction es generalizing j with
  | nil => exact ⟨rfl, fun f => (List.append_nil _).symm⟩
  | cons e es ih =>
    obtain ⟨he, hes⟩ := List.forall_mem_cons.1 hes
    rw [List.map_cons, runSteps, runStep_entry hj he]
    have halike := j.alike_put (j.filesFor e) e
    obtain ⟨hreplies, hlines⟩ := ih (j := j.put (j.filesFor e) e) (halike.routing.trans hj) hes
    refine ⟨congrArg _ (hreplies.trans (List.map_congr_left fun e _ => halike.answer_eq e)),
      fun f => (hlines f).trans ?_⟩
    rw [linesOf_put, List.append_assoc, added, added, written_cons, List.flatMap_append,
      halike.lineOf_eq, count_filesFor]
    split <;> simp

/-- An entry with a time is one of those that are kept. -/
lemma mem_of_mem_stamped {s : Entry × DateTime} (h : s ∈ j.stamped es) :
    s.1 ∈ es ∧ j.keeps s.1.level = true := by
  have hfirst : s.1 ∈ (j.stamped es).map Prod.fst := List.mem_map_of_mem h
  rw [stamped, Readings.map_fst_along] at hfirst
  exact List.mem_filter.1 hfirst

/-- **Entries that are written to the file that they belong in add the lines that are due**, to
every file. -/
theorem linesOf_enterAll_due {own : File} (hj : j.routing = .files)
    (hes : ∀ e ∈ es, e.home = own) (f : File) :
    (j.enterAll own es).linesOf f = j.linesOf f ++ j.due es f := by
  have hone : ∀ s ∈ j.stamped es,
      List.replicate ((j.placesOf own s.1.level).count f) (j.lineOf s) =
        List.replicate (if s.1.belongs f then 1 else 0) (j.lineOf s) := by
    intro s hs
    obtain ⟨hmem, hkeeps⟩ := mem_of_mem_stamped hs
    have hplaces : j.placesOf own s.1.level = withErrors [s.1.home] s.1.level := by
      rw [placesOf, hkeeps, if_pos rfl, hj, hes s.1 hmem]
    rw [hplaces, s.1.count_withErrors]
  rw [linesOf_enterAll_count, due, List.flatMap_congr hone, flatMap_replicate_ite]

/-! ### What strays -/

/-- Whether several entries are written as they ought to be: each file gets the lines that are
due. -/
def Routed (ρ : Type) (j : Journal) (es : List Entry) : Prop :=
  ∀ f, (runSteps j (es.map (Entry.step ρ))).2.linesOf f = j.linesOf f ++ j.due es f

/-- Whether an entry that is kept strays or cannot be written. -/
def misses (j : Journal) (e : Entry) : Bool :=
  j.keeps e.level && (e.strays || (j.lineFault? e).isSome)

/-- As many lines are due in a file as entries are kept and belong there. -/
lemma length_due (j : Journal) (es : List Entry) (f : File) :
    (j.due es f).length = (es.filter fun e => j.keeps e.level && e.belongs f).length := by
  have hfilter : ((j.stamped es).filter (·.1.belongs f)).map Prod.fst =
      ((j.stamped es).map Prod.fst).filter (·.belongs f) := by
    rw [List.filter_map]
    rfl
  rw [due, List.length_map, ← List.length_map Prod.fst, hfilter, stamped, Readings.map_fst_along,
    List.filter_filter]
  simp only [Bool.and_comm]

/-- As many lines are added to a file as the entries have places there. -/
lemma length_added (j : Journal) (es : List Entry) (f : File) :
    (j.added es f).length = (es.map fun e => (j.filesFor e).count f).sum := by
  have hcopies : (j.added es f).length = ((j.written es).map fun s => s.1.copies f).sum := by
    rw [added, List.length_flatMap]
    simp only [List.length_replicate]
  have hfirst : (j.written es).map (fun s => s.1.copies f) =
      ((j.written es).map Prod.fst).map (·.copies f) := by
    rw [List.map_map]
    rfl
  rw [hcopies, hfirst, written, Readings.map_fst_along]
  clear hcopies hfirst
  induction es with
  | nil => rfl
  | cons e es ih =>
    rw [List.map_cons, List.sum_cons, List.filter_cons, count_filesFor, ← ih]
    cases (j.filesFor e).isEmpty <;> simp

/-- **The files of requests and of the system lack one line for each entry that misses them.** -/
theorem length_due_eq (j : Journal) (es : List Entry) :
    (j.due es .requests).length + (j.due es .system).length =
      (j.added es .requests).length + (j.added es .system).length +
        (es.filter j.misses).length := by
  simp only [length_due, length_added]
  induction es with
  | nil => rfl
  | cons e es ih =>
    -- an entry that is kept belongs in one of the two files, and has a place there or misses it
    have hone : (if j.keeps e.level && e.belongs .requests then 1 else 0) +
        (if j.keeps e.level && e.belongs .system then 1 else 0) =
          (j.filesFor e).count .requests + (j.filesFor e).count .system +
            if j.misses e then 1 else 0 := by
      unfold filesFor misses
      cases hkeeps : j.keeps e.level with
      | false => rfl
      | true =>
        cases hline : j.lineFault? e with
        | some f =>
          rcases e.home_eq with hhome | hhome <;> simp [Entry.belongs, hhome]
        | none =>
          simp only [Bool.true_and, Option.isNone_none, if_true, Option.isSome_none, Bool.or_false,
            e.count_files, Entry.copies]
          cases hstrays : e.strays with
          | true => simp [Entry.belongs, Entry.home_of_strays hstrays]
          | false => simp
    have hlength (p : Entry → Bool) :
        ((e :: es).filter p).length = (if p e then 1 else 0) + (es.filter p).length := by
      rw [List.filter_cons]
      split <;> simp [Nat.add_comm]
    rw [hlength, hlength, hlength, List.map_cons, List.sum_cons, List.map_cons, List.sum_cons]
    omega

/-- Entries none of which misses the files it belongs in add the lines that are due. -/
lemma added_eq_due (h : ∀ e ∈ es, j.misses e = false) (f : File) :
    j.added es f = j.due es f := by
  have hfiles : ∀ e ∈ es, j.keeps e.level = true → e.strays = false ∧ j.filesFor e = e.files := by
    intro e he hkeeps
    have hmisses := h e he
    rw [misses, hkeeps, Bool.true_and, Bool.or_eq_false_iff, Option.isSome_eq_false_iff] at hmisses
    exact ⟨hmisses.1, by rw [filesFor, hkeeps, hmisses.2, Bool.and_self, if_pos rfl]⟩
  have hwritten : j.written es = j.stamped es := by
    rw [written, stamped]
    refine congrArg _ (List.filter_congr fun e he => ?_)
    cases hkeeps : j.keeps e.level with
    | false => rw [filesFor, hkeeps, Bool.false_and, if_neg Bool.false_ne_true]; rfl
    | true =>
      obtain ⟨hstrays, hfor⟩ := hfiles e he hkeeps
      rw [hfor, Entry.files, hstrays, if_neg Bool.false_ne_true, withErrors]
      cases isSevere e.level <;> rfl
  have hone : ∀ s ∈ j.stamped es, List.replicate (s.1.copies f) (j.lineOf s) =
      List.replicate (if s.1.belongs f then 1 else 0) (j.lineOf s) := by
    intro s hs
    obtain ⟨hmem, hkeeps⟩ := mem_of_mem_stamped hs
    rw [Entry.copies, (hfiles s.1 hmem hkeeps).1, if_neg Bool.false_ne_true]
  rw [added, hwritten, due, List.flatMap_congr hone, flatMap_replicate_ite]

/-- **Where the entries of a run go.** All entries are answered: an entry that is severe enough to
be kept is refused if its line cannot be put together, and no other one is. Each file gets, in
order, as many lines of each entry that is written as are counted; which are the lines that are due
in every file exactly when each entry that is severe enough to be kept can be written and does not
name the component `_errors`.

**Proof sketch.** What is added is known for every run (`Journal.linesOf_runSteps`). It is what is
due if no kept entry strays or cannot be written (`Journal.added_eq_due`). Otherwise the files of
requests and of the system have fewer lines than are due, by the number of these entries
(`Journal.length_due_eq`). -/
theorem routed_iff (ρ : Type) (hj : j.routing = .files) (hes : ∀ e ∈ es, e.Ordinary) :
    (runSteps j (es.map (Entry.step ρ))).1 = es.map j.answer ∧
      (∀ f, (runSteps j (es.map (Entry.step ρ))).2.linesOf f = j.linesOf f ++ j.added es f) ∧
      (j.Routed ρ es ↔ ∀ e ∈ es, j.threshold ≤ e.level.number →
        e.component? ≠ some (.text "_errors") ∧ j.lineFault? e = none) := by
  obtain ⟨hreplies, hlines⟩ := linesOf_runSteps (ρ := ρ) hj hes
  refine ⟨hreplies, hlines, ?_⟩
  have hkeeps (e : Entry) : j.keeps e.level = true ↔ j.threshold ≤ e.level.number := by
    rw [keeps, hj]
    exact decide_eq_true_iff
  have hmisses : (∀ e ∈ es, j.threshold ≤ e.level.number →
      e.component? ≠ some (.text "_errors") ∧ j.lineFault? e = none) ↔
        ∀ e ∈ es, j.misses e = false := by
    refine forall₂_congr fun e _ => ?_
    rw [misses, ← hkeeps, Ne, ← Entry.strays_iff]
    cases j.keeps e.level <;> cases e.strays <;> cases j.lineFault? e <;> simp
  rw [hmisses]
  constructor
  · intro hrouted
    have hsame (f : File) : j.added es f = j.due es f :=
      List.append_cancel_left ((hlines f).symm.trans (hrouted f))
    have hnone : (es.filter j.misses).length = 0 := by
      have hlength := j.length_due_eq es
      rw [hsame, hsame] at hlength
      omega
    simpa [List.filter_eq_nil_iff] using hnone
  · intro hnone f
    rw [hlines f, added_eq_due hnone]

/-- An entry of the query component that is severe goes to the file of requests and to that of
errors; one that names no component goes to the file of the system. -/
theorem routed_two :
    let failed : Entry := ⟨.error, .text "failed", [("component", .text "query")]⟩
    let ready : Entry := ⟨.info, .text "ready", []⟩
    (∀ e ∈ [failed, ready], e.Ordinary) ∧ plain.Routed Empty [failed, ready] ∧
      plain.due [failed, ready] .requests = [plain.lineOf (failed, morning)] ∧
      plain.due [failed, ready] .system = [plain.lineOf (ready, morning)] ∧
      plain.due [failed, ready] .errors = [plain.lineOf (failed, morning)] := by
  intro failed ready
  have hordinary : ∀ e ∈ [failed, ready], e.Ordinary := by
    simp only [List.forall_mem_cons, List.not_mem_nil, false_imp_iff, implies_true, and_true]
    exact ⟨⟨rfl, .inr ⟨"query", rfl⟩⟩, rfl, .inl rfl⟩
  have hfailed : failed.Writable :=
    ⟨Json.fault?_text _ _, List.forall_mem_singleton.2 (Json.fault?_text _ _)⟩
  have hready : ready.Writable := ⟨Json.fault?_text _ _, List.forall_mem_nil _⟩
  have hother : ∀ e ∈ [failed, ready], plain.threshold ≤ e.level.number →
      e.component? ≠ some (.text "_errors") ∧ plain.lineFault? e = none := by
    simp only [List.forall_mem_cons, List.not_mem_nil, false_imp_iff, implies_true, and_true]
    refine ⟨fun _ => ⟨fun h => ?_, hfailed.fault?_eq_none _ _⟩,
      fun _ => ⟨fun h => ?_, hready.fault?_eq_none _ _⟩⟩
    · exact absurd (Value.text.inj (Option.some.inj h)) (by decide)
    · cases h
  exact ⟨hordinary, (routed_iff Empty rfl hordinary).2.2.2 hother, rfl, rfl, rfl⟩

/-- An entry that names the component `_errors` and is not severe is in no file, though it is due in
that of the system. -/
theorem stray_entry_lost :
    let started : Entry := ⟨.info, .text "started", [("component", .text "_errors")]⟩
    started.Ordinary ∧ plain.keeps started.level = true ∧
      plain.due [started] .system = [plain.lineOf (started, morning)] ∧
      (∀ f, (runSteps plain ([started].map (Entry.step Empty))).2.linesOf f = []) ∧
      ¬ plain.Routed Empty [started] := by
  intro started
  have hordinary : started.Ordinary := ⟨rfl, .inr ⟨"_errors", rfl⟩⟩
  have hfiles : plain.filesFor started = [] := ite_self []
  have hnowhere : ∀ f, (runSteps plain ([started].map (Entry.step Empty))).2.linesOf f = [] := by
    intro f
    rw [List.map_singleton, runSteps, runStep_entry rfl hordinary, hfiles]
    rfl
  refine ⟨hordinary, rfl, rfl, hnowhere, fun h => ?_⟩
  have hsystem := (hnowhere .system).symm.trans (h .system)
  cases hsystem

end Journal

end TableClient.Log
