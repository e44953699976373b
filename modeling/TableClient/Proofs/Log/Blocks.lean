import TableClient.Proofs.Log.Lines

set_option relaxedAutoImplicit false
set_option autoImplicit false

/-!
# Nested blocks

Whatever happens inside a tracked block, it leaves an entry that it started and, behind all that is
logged inside it, an entry that it completed, with the same operation and context. So the entries of
blocks in blocks are properly nested, also when an exception leaves several blocks at once: these
are completed then, from the innermost one on, and it is this exception that arrives outside.

What a program does is told as a sequence of events, which does not depend on the level of the
journal but for the entries that are refused. The level decides which events leave a line. The lines
are read back as what was logged.

## Main definitions

* `TableClient.Log.Activity`, `TableClient.Log.Activity.run` — programs that log, change the
  correlation id, run tracked blocks, raise exceptions and handle them, and what they do.
* `TableClient.Log.Activity.Tracked` — the programs whose blocks have operations and contexts that
  can be logged.
* `TableClient.Log.Event`, `TableClient.Log.Activity.story` — the events of a program, how it ends,
  and the correlation id that it leaves.
* `TableClient.Log.Nested`, `TableClient.Log.openBlocks` — properly nested events, and the blocks
  that were started and not completed.
* `TableClient.Log.Journal.Records` — what an event leaves in a journal.
* `TableClient.Log.Activity.ofSteps` — the program of a session, which handles all exceptions.

## Main results

* `TableClient.Log.track_of_suitable` — a tracked block is the block between its two entries.
* `TableClient.Log.Activity.nested_story`, `TableClient.Log.Activity.unwinding` — the events of a
  program are properly nested; the blocks that an exception leaves are completed in order.
* `TableClient.Log.Activity.run_story` — a program leaves what its events leave.
* `TableClient.Log.Activity.run_brackets` — the lines and the end of a program.
* `TableClient.Log.Activity.run_ofSteps` — the steps of a session as a program.
-/

namespace TableClient.Log

/-! ### Programs -/

/-- A program that uses a journal, with exceptions of type `ε`. -/
inductive Activity (ε : Type) where
  | nothing
  | entry (e : Entry)
  | setCorrelation (id : CorrelationId)
  | clearCorrelation
  | raise (x : ε)
  | seq (first second : Activity ε)
  /-- A tracked block. -/
  | block (operation : Value) (context : Members) (body : Activity ε)
  /-- A program with a handler for the exceptions that it raises. -/
  | attempt (body : Activity ε) (handler : ε → Activity ε)

/-- The names that stand in entries around a block, or are reserved. -/
def takenNames : List Text :=
  ["self", "message", "level", "operation", "duration_seconds", "timestamp", "correlation_id"]

/-- An operation and a context that can be put into the entries around a block: the operation has a
text, all values can be written as parts of an entry, the names of the context are distinct and not
taken, and it names no component but by a text other than `_errors`. -/
structure Suitable (operation : Value) (context : Members) : Prop where
  shown : operation.showFault? maxNesting = none
  writable : Json.fault? operation (maxNesting - 1) = none
  values : ∀ detail ∈ context, Json.fault? detail.2 (maxNesting - 1) = none
  distinct : context.keys.Nodup
  untaken : ∀ name ∈ takenNames, context.has name = false
  component : context.get? "component" = none ∨
    ∃ name : Text, context.get? "component" = some (.text name) ∧ name ≠ "_errors"

namespace Activity

variable {ε : Type}

/-- What a program does with a journal, and the exception that it ends with, if any. An entry that
is refused raises the exception that `refuse` makes of the reason. -/
def run (refuse : Fault → ε) : Activity ε → Journal → Except ε Unit × Journal
  | nothing, j => (.ok (), j)
  | entry e, j =>
    match j.tryWrite e with
    | (.ok (), j) => (.ok (), j)
    | (.error f, j) => (.error (refuse f), j)
  | setCorrelation id, j => (.ok (), j.setCorrelation id)
  | clearCorrelation, j => (.ok (), j.clearCorrelation)
  | raise x, j => (.error x, j)
  | seq first second, j =>
    match first.run refuse j with
    | (.ok (), j) => second.run refuse j
    | (.error x, j) => (.error x, j)
  | block operation context body, j => track refuse operation context (body.run refuse) j
  | attempt body handler, j =>
    match body.run refuse j with
    | (.ok (), j) => (.ok (), j)
    | (.error x, j) => (handler x).run refuse j

/-- The programs whose blocks have operations and contexts that can be logged. -/
def Tracked : Activity ε → Prop
  | seq first second => first.Tracked ∧ second.Tracked
  | block operation context body => Suitable operation context ∧ body.Tracked
  | attempt body handler => body.Tracked ∧ ∀ x, (handler x).Tracked
  | _ => True

end Activity

/-! ### Events -/

/-- What happens in a program. -/
inductive Event (ε : Type) where
  | started (operation : Value) (context : Members)
  | completed (operation : Value) (context : Members)
  /-- An entry is written to files. -/
  | logged (e : Entry) (files : List File)
  | raised (x : ε)

/-- Properly nested events: between the start of a block and its end, with the same operation and
context, all blocks that are started are completed. -/
inductive Nested {ε : Type} : List (Event ε) → Prop where
  | nil : Nested []
  | logged {e : Entry} {files : List File} {es : List (Event ε)} : Nested es →
    Nested (.logged e files :: es)
  | raised {x : ε} {es : List (Event ε)} : Nested es → Nested (.raised x :: es)
  | block {operation : Value} {context : Members} {inner es : List (Event ε)} : Nested inner →
    Nested es →
    Nested (.started operation context :: (inner ++ .completed operation context :: es))

/-- The blocks that are open after some events, the innermost one first, if those of `stack` were
open before. -/
def openBlocks {ε : Type} (stack : List (Value × Members)) :
    List (Event ε) → List (Value × Members)
  | [] => stack
  | .started operation context :: es => openBlocks ((operation, context) :: stack) es
  | .completed _ _ :: es => openBlocks stack.tail es
  | _ :: es => openBlocks stack es

section

variable {ε : Type} {es es' : List (Event ε)}

/-- Nested events one after the other are nested. -/
lemma Nested.append (h : Nested es) (h' : Nested es') : Nested (es ++ es') := by
  induction h with
  | nil => exact h'
  | logged _ ih => exact .logged ih
  | raised _ ih => exact .raised ih
  | block hinner _ _ ih =>
    rw [List.cons_append, List.append_assoc, List.cons_append]
    exact .block hinner ih

/-- Open blocks are counted on from those that are open. -/
lemma openBlocks_append (stack : List (Value × Members)) (es es' : List (Event ε)) :
    openBlocks stack (es ++ es') = openBlocks (openBlocks stack es) es' := by
  induction es generalizing stack with
  | nil => rfl
  | cons e es ih => cases e <;> exact ih _

/-- Nested events leave the blocks open that were. -/
lemma Nested.openBlocks_eq (h : Nested es) (stack : List (Value × Members)) :
    openBlocks stack es = stack := by
  induction h generalizing stack with
  | nil => rfl
  | logged _ ih => exact ih stack
  | raised _ ih => exact ih stack
  | @block operation context inner es _ _ hinner ih =>
    rw [openBlocks, openBlocks_append, hinner, openBlocks]
    exact ih stack

end

/-- What is told of a program: its events, the exception that it ends with, if any, and the
correlation id that it leaves. -/
structure Told (ε : Type) where
  events : List (Event ε)
  result : Except ε Unit
  correlation : Option CorrelationId

namespace Activity

variable {ε : Type} {refuse : Fault → ε}
  {destinations : Option CorrelationId → Entry → Except Fault (List File)}

/-- What is told of a program that begins with a correlation id. Where entries go, and which ones
are refused, is given for the correlation id in force. -/
def story (refuse : Fault → ε)
    (destinations : Option CorrelationId → Entry → Except Fault (List File)) :
    Activity ε → Option CorrelationId → Told ε
  | nothing, id => ⟨[], .ok (), id⟩
  | setCorrelation id, _ => ⟨[], .ok (), some id⟩
  | clearCorrelation, _ => ⟨[], .ok (), none⟩
  | entry e, id =>
    match destinations id e with
    | .ok files => ⟨[.logged e files], .ok (), id⟩
    | .error f => ⟨[.raised (refuse f)], .error (refuse f), id⟩
  | raise x, id => ⟨[.raised x], .error x, id⟩
  | seq first second, id =>
    let before := first.story refuse destinations id
    match before.result with
    | .ok () =>
      let rest := second.story refuse destinations before.correlation
      ⟨before.events ++ rest.events, rest.result, rest.correlation⟩
    | .error x => ⟨before.events, .error x, before.correlation⟩
  | block operation context body, id =>
    let inner := body.story refuse destinations id
    ⟨.started operation context :: (inner.events ++ [.completed operation context]), inner.result,
      inner.correlation⟩
  | attempt body handler, id =>
    let before := body.story refuse destinations id
    match before.result with
    | .ok () => ⟨before.events, .ok (), before.correlation⟩
    | .error x =>
      let rest := (handler x).story refuse destinations before.correlation
      ⟨before.events ++ rest.events, rest.result, rest.correlation⟩

/-- **The events of a program are properly nested**, however it ends. -/
theorem nested_story (a : Activity ε) (id : Option CorrelationId) :
    Nested (a.story refuse destinations id).events := by
  induction a generalizing id with
  | nothing | setCorrelation _ | clearCorrelation => exact .nil
  | entry e =>
    rw [story]
    split
    · exact .logged .nil
    · exact .raised .nil
  | raise x => exact .raised .nil
  | seq first second ihfirst ihsecond =>
    rw [story]
    dsimp only
    split
    · exact (ihfirst id).append (ihsecond _)
    · exact ihfirst id
  | block operation context body ih => exact .block (ih id) .nil
  | attempt body handler ihbody ihhandler =>
    rw [story]
    dsimp only
    split
    · exact ihbody id
    · exact (ihbody id).append (ihhandler _ _)

/-- **The blocks that an exception leaves are completed from the innermost one on.** After the
events before the exception, nothing is left but to complete the blocks that are open.

**Proof sketch.** Induction on the program. What comes before the part that fails is properly nested
(`nested_story`), so that it leaves no block open. -/
theorem unwinding {a : Activity ε} {id : Option CorrelationId} {x : ε}
    (h : (a.story refuse destinations id).result = .error x) :
    ∃ before left,
      (a.story refuse destinations id).events =
          before ++ .raised x :: left.map (fun b => .completed b.1 b.2) ∧
        ∀ stack, openBlocks stack before = left ++ stack := by
  induction a generalizing id x with
  | nothing | setCorrelation _ | clearCorrelation => cases h
  | entry e =>
    rw [story] at h ⊢
    split at h
    · cases h
    · rename_i f heq
      obtain rfl := Except.error.inj h
      exact ⟨[], [], rfl, fun _ => rfl⟩
  | raise y =>
    obtain rfl := Except.error.inj h
    exact ⟨[], [], rfl, fun _ => rfl⟩
  | seq first second ihfirst ihsecond =>
    have hnested : Nested (first.story refuse destinations id).events := nested_story first id
    rw [story] at h ⊢
    dsimp only at h ⊢
    split at h
    · obtain ⟨before, left, hes, hopen⟩ := ihsecond h
      refine ⟨(first.story refuse destinations id).events ++ before, left, ?_, fun stack => ?_⟩
      · rw [List.append_assoc, ← hes]
      · rw [openBlocks_append, hnested.openBlocks_eq, hopen]
    · rename_i y heq
      obtain rfl := Except.error.inj h
      exact ihfirst heq
  | block operation context body ih =>
    obtain ⟨before, left, hes, hopen⟩ := ih h
    refine ⟨.started operation context :: before, left ++ [(operation, context)], ?_,
      fun stack => ?_⟩
    · rw [story, hes]
      simp
    · rw [openBlocks, hopen, List.append_assoc, List.singleton_append]
  | attempt body handler ihbody ihhandler =>
    have hnested : Nested (body.story refuse destinations id).events := nested_story body id
    rw [story] at h ⊢
    dsimp only at h ⊢
    split at h
    · cases h
    · rename_i y heq
      obtain ⟨before, left, hes, hopen⟩ := ihhandler y h
      refine ⟨(body.story refuse destinations id).events ++ before, left, ?_, fun stack => ?_⟩
      · rw [List.append_assoc, ← hes]
      · rw [openBlocks_append, hnested.openBlocks_eq, hopen]

end Activity

/-! ### What events leave -/

/-- The record of an entry around a block: it has the level, the message made of the name of the
operation and a label, the operation, and all that the context has. -/
structure Marks (label : String) (level : Level) (operation : Value) (context members : Members) :
    Prop where
  level : members.get? "level" = some (.text level.name)
  message : members.get? "message" = some (.text (operation.shown ++ (label : Text)))
  operation : members.get? "operation" = some operation
  context : ∀ name v, context.get? name = some v → members.get? name = some v

namespace Journal

/-- The level from which on a journal keeps entries. A stream without a threshold has the level of
warnings. -/
def level (j : Journal) : Int :=
  match j.routing with
  | .files => j.threshold
  | .stream => if j.threshold = 0 then Level.warning.number else j.threshold

/-- The file of the entries around a block. -/
def fileOf (j : Journal) (context : Members) : File :=
  match j.routing with
  | .files => Entry.homeOf (context.get? "component")
  | .stream => .stream

/-- Where entries go, and which ones are refused, by the correlation id in force. -/
def destinationsUnder (j : Journal) (id : Option CorrelationId) (e : Entry) :
    Except Fault (List File) :=
  (j.under id).destinations e

/-- What an event leaves in a journal: the start of a block one line, up to the level of details,
its end one line, up to the level of information, an entry one line in each of its files, and an
exception none. The lines are read back as the records of their entries. -/
inductive Records {ε : Type} (j : Journal) : Event ε → List (File × String) → Prop where
  | started {operation : Value} {context members : Members} {line : String} :
    j.level ≤ Level.debug.number → Marks "_started" .debug operation context members →
    Json.read line = .ok (Json.image (.ofMembers members)) →
    Records j (.started operation context) [(j.fileOf context, line)]
  | startedUnseen {operation : Value} {context : Members} : Level.debug.number < j.level →
    Records j (.started operation context) []
  | completed {operation : Value} {context members : Members} {line : String} :
    j.level ≤ Level.info.number → Marks "_completed" .info operation context members →
    Json.read line = .ok (Json.image (.ofMembers members)) →
    Records j (.completed operation context) [(j.fileOf context, line)]
  | completedUnseen {operation : Value} {context : Members} : Level.info.number < j.level →
    Records j (.completed operation context) []
  /-- The line of an entry, for some time and the correlation id in force. -/
  | logged {e : Entry} {files : List File} {line : String} (now : DateTime)
    (id : Option CorrelationId) :
    (files ≠ [] → Json.read line = .ok (Json.image (.ofMembers (e.members now id)))) →
    Records j (.logged e files) (files.map fun f => (f, line))
  | raised {x : ε} : Records j (.raised x) []

/-- A block that has started leaves one line, up to the level of details. -/
lemma Records.line_of_started {ε : Type} {j : Journal} {operation : Value} {context : Members}
    {chunk : List (File × String)} (h : Records j (.started operation context : Event ε) chunk)
    (hlevel : j.level ≤ Level.debug.number) :
    ∃ line, chunk = [(j.fileOf context, line)] ∧ ∃ members : Members,
      Json.read line = .ok (Json.image (.ofMembers members)) ∧
        Marks "_started" .debug operation context members := by
  cases h with
  | started _ hmarks hread => exact ⟨_, rfl, _, hread, hmarks⟩
  | startedUnseen hlt => exact absurd hlevel (Int.not_le.2 hlt)

/-- A block that has ended leaves one line, up to the level of information. -/
lemma Records.line_of_completed {ε : Type} {j : Journal} {operation : Value} {context : Members}
    {chunk : List (File × String)} (h : Records j (.completed operation context : Event ε) chunk)
    (hlevel : j.level ≤ Level.info.number) :
    ∃ line, chunk = [(j.fileOf context, line)] ∧ ∃ members : Members,
      Json.read line = .ok (Json.image (.ofMembers members)) ∧
        Marks "_completed" .info operation context members := by
  cases h with
  | completed _ hmarks hread => exact ⟨_, rfl, _, hread, hmarks⟩
  | completedUnseen hlt => exact absurd hlevel (Int.not_le.2 hlt)

/-- A journal with the settings of another one. -/
structure Akin (j j' : Journal) : Prop where
  routing : j'.routing = j.routing
  threshold : j'.threshold = j.threshold

/-- A journal that events have led to: their lines are added, and the settings are kept. -/
structure Wrote {ε : Type} (j : Journal) (es : List (Event ε)) (j' : Journal) : Prop where
  akin : j.Akin j'
  lines : ∃ chunks, j'.lines = j.lines ++ chunks.flatten ∧ List.Forall₂ (Records j) es chunks

end Journal

/-! ### The entries around a block -/

section

variable {operation : Value} {context : Members} {e : Entry}

/-- A name that is taken is none of the names of a context. -/
lemma Suitable.notMem_keys (h : Suitable operation context) {name : Text}
    (hname : name ∈ takenNames) : name ∉ context.keys := by
  intro hmem
  have hthere := Keyed.has_iff_mem_keys.2 hmem
  rw [h.untaken name hname] at hthere
  cases hthere

/-- Nothing is found in a context under a name that is taken. -/
lemma Suitable.get?_eq_none (h : Suitable operation context) {name : Text}
    (hname : name ∈ takenNames) : context.get? name = none :=
  Keyed.get?_of_notMem_keys (h.notMem_keys hname)

/-- What is found in a context stands under a name that is not taken. -/
lemma Suitable.ne_of_get? (h : Suitable operation context) {name taken : Text} {v : Value}
    (hv : context.get? name = some v) (htaken : taken ∈ takenNames) : taken ≠ name := by
  rintro rfl
  rw [h.get?_eq_none htaken] at hv
  cases hv

/-- An entry that names the component of a context goes to the file of this component. -/
lemma Suitable.goesTo (h : Suitable operation context)
    (hreserved : reservedNames.any (fun name => e.details.has name) = false)
    (hcomponent : e.component? = context.get? "component") :
    e.GoesTo (Entry.homeOf (context.get? "component")) := by
  have hordinary : e.Ordinary := by
    refine ⟨hreserved, ?_⟩
    rw [hcomponent]
    exact h.component.imp_right fun ⟨name, hname, _⟩ => ⟨name, hname⟩
  have hstays : e.strays = false := by
    rw [Bool.eq_false_iff]
    intro hstrays
    rw [Entry.strays_iff, hcomponent] at hstrays
    rcases h.component with hnone | ⟨name, hname, hne⟩
    · rw [hnone] at hstrays
      cases hstrays
    · rw [hname] at hstrays
      exact hne (Value.text.inj (Option.some.inj hstrays))
  rw [← hcomponent]
  exact hordinary.goesTo hstays

/-- A suitable context can be logged. -/
lemma Suitable.recordable (h : Suitable operation context) : Recordable context := by
  refine ⟨?_, h.values⟩
  simp only [List.any_eq_false, Bool.not_eq_true, reservedNames, List.forall_mem_cons,
    List.not_mem_nil, false_imp_iff, implies_true, and_true]
  exact ⟨h.untaken _ (by decide), h.untaken _ (by decide), h.untaken _ (by decide)⟩

/-- An operation can be logged before its context. -/
lemma Suitable.recordable_operation (h : Suitable operation context) :
    Recordable [("operation", operation)] :=
  ⟨rfl, List.forall_mem_singleton.2 h.writable⟩

/-- An operation and a duration can be logged before a context. -/
lemma Suitable.recordable_duration (h : Suitable operation context) (x : Binary64) :
    Recordable [("operation", operation), ("duration_seconds", .float x)] :=
  ⟨rfl, List.forall_mem_cons.2
    ⟨h.writable, List.forall_mem_singleton.2 (Json.fault?_float x _)⟩⟩

/-- The parts of the entry that a suitable block has started can be written. -/
lemma Suitable.writable_started (h : Suitable operation context) :
    (startedEntry operation context).Writable :=
  ⟨Json.fault?_text _ _, (h.recordable_operation.append h.recordable).writable⟩

/-- The parts of the entry that a suitable block has ended can be written. -/
lemma Suitable.writable_completed (h : Suitable operation context) (start stop : Binary64) :
    (completedEntry operation context start stop).Writable :=
  ⟨Json.fault?_text _ _, ((h.recordable_duration _).append h.recordable).writable⟩

/-- **A tracked block with a suitable context is the block between its two entries**, in the file of
its component. -/
theorem track_of_suitable {σ ε α : Type} [Journaled σ] {refuse : Fault → ε}
    (h : Suitable operation context) (block : σ → Except ε α × σ) (s : σ) :
    track refuse operation context block s =
      let own := Entry.homeOf (context.get? "component")
      let j := Journaled.journal s
      let ended := block (Journaled.withJournal s
        (j.afterTimer.enter own (startedEntry operation context)))
      let j' := Journaled.journal ended.2
      (ended.1, Journaled.withJournal ended.2 (j'.afterTimer.enter own
        (completedEntry operation context j.readTimer.1 j'.readTimer.1))) := by
  refine track_eq_of_written (h.untaken "self" (by decide)) (h.untaken "operation" (by decide))
    (h.untaken "duration_seconds" (by decide)) h.shown (fun j => ?_) (fun j start stop => ?_)
    block s
  · have hreserved := (h.recordable_operation.append h.recordable).unreserved
    exact j.tryWrite_of_writable hreserved (h.goesTo hreserved rfl) h.writable_started
  · have hreserved := ((h.recordable_duration ((stop.sub start).roundPlaces 3)).append
      h.recordable).unreserved
    exact j.tryWrite_of_writable hreserved (h.goesTo hreserved rfl)
      (h.writable_completed start stop)

/-- **An entry with the operation, and at most a duration, before a context is marked by its
label.** -/
theorem Suitable.marks (h : Suitable operation context) {label : String} {level : Level}
    {front : Members} (hdistinct : front.keys.Nodup)
    (hnames : ∀ name ∈ front.keys, name = "operation" ∨ name = "duration_seconds")
    (hoperation : front.get? "operation" = some operation) (now : DateTime)
    (correlation : Option CorrelationId) :
    Marks label level operation context
      (Entry.members ⟨level, .text (operation.shown ++ (label : Text)), front ++ context⟩ now
        correlation) := by
  have htaken : ∀ name ∈ front.keys, name ∈ takenNames := by
    intro name hname
    rcases hnames name hname with rfl | rfl <;> decide
  have hboth : (Keyed.keys (front ++ context)).Nodup := by
    rw [Keyed.keys, List.map_append]
    refine List.nodup_append.2 ⟨hdistinct, h.distinct, fun name hname name' hname' heq => ?_⟩
    exact h.notMem_keys (htaken name hname) (heq ▸ hname')
  have hfound (name : Text) (hid : name ≠ "correlation_id") {v : Value}
      (hv : Keyed.get? (front ++ context) name = some v) :
      (Entry.members ⟨level, .text (operation.shown ++ (label : Text)), front ++ context⟩ now
        correlation).get? name = some v := by
    rw [Entry.get?_members_eq_told hboth, Entry.told, if_neg fun hset => hid hset.1, hv]
    rfl
  have hnone (name : Text) (hname : name ∈ takenNames)
      (hfront : ¬ (name = "operation" ∨ name = "duration_seconds")) :
      Keyed.get? (front ++ context) name = none := by
    rw [Keyed.get?_append, Keyed.get?_of_notMem_keys fun hmem => hfront (hnames name hmem),
      h.get?_eq_none hname]
    rfl
  refine ⟨?_, ?_, ?_, fun name v hv => ?_⟩
  · rw [Entry.get?_members_eq_told hboth, Entry.told, if_neg fun hset => absurd hset.1 (by decide),
      hnone "level" (by decide) (by decide)]
    rfl
  · rw [Entry.get?_members_eq_told hboth, Entry.told, if_neg fun hset => absurd hset.1 (by decide),
      hnone "message" (by decide) (by decide)]
    rfl
  · refine hfound "operation" (by decide) ?_
    rw [Keyed.get?_append, hoperation]
    rfl
  · refine hfound name (h.ne_of_get? hv (by decide)).symm ?_
    have hfront : name ∉ front.keys := by
      intro hmem
      rw [h.get?_eq_none (htaken name hmem)] at hv
      cases hv
    rw [Keyed.get?_append, Keyed.get?_of_notMem_keys hfront, hv]
    rfl

end

/-! ### What a program leaves -/

namespace Journal

variable {ε : Type} {j j' j'' : Journal} {es es' : List (Event ε)}

/-- An entry is kept from the level of the journal on. -/
lemma keeps_iff (j : Journal) (level : Level) : j.keeps level = true ↔ j.level ≤ level.number := by
  unfold keeps Journal.level
  cases j.routing <;> exact decide_eq_true_iff

/-- A journal is akin to itself. -/
lemma Akin.refl (j : Journal) : j.Akin j := ⟨rfl, rfl⟩

/-- A journal is akin to what one akin to it is akin to. -/
lemma Akin.trans (h : j.Akin j') (h' : j'.Akin j'') : j.Akin j'' :=
  ⟨h'.routing.trans h.routing, h'.threshold.trans h.threshold⟩

/-- Journals that are alike are akin. -/
lemma Alike.akin (h : j.Alike j') : j.Akin j' := ⟨h.routing, h.threshold⟩

/-- Journals that are akin write entries to the same files. -/
lemma Akin.destinationsUnder_eq (h : j.Akin j') :
    j'.destinationsUnder = j.destinationsUnder := by
  funext id e
  have hunder : (j.under id).Alike (j'.under id) := ⟨h.routing, h.threshold, rfl⟩
  rw [destinationsUnder, destinationsUnder, hunder.destinations_eq]

/-- Events leave the same in journals that are akin. -/
lemma Akin.records (h : j.Akin j') {e : Event ε} {chunk : List (File × String)}
    (hrecords : Records j' e chunk) : Records j e chunk := by
  have hlevel : j'.level = j.level := by
    rw [Journal.level, Journal.level, h.routing, h.threshold]
  have hfile : j'.fileOf = j.fileOf := by
    funext context
    rw [fileOf, fileOf, h.routing]
  cases hrecords with
  | started hle hmarks hread => exact hfile ▸ .started (hlevel ▸ hle) hmarks hread
  | startedUnseen hlt => exact .startedUnseen (hlevel ▸ hlt)
  | completed hle hmarks hread => exact hfile ▸ .completed (hlevel ▸ hle) hmarks hread
  | completedUnseen hlt => exact .completedUnseen (hlevel ▸ hlt)
  | logged now id hread => exact .logged now id hread
  | raised => exact .raised

/-- No events lead to a journal that is akin and has the same lines. -/
lemma Akin.wrote (h : j.Akin j') (hlines : j'.lines = j.lines) : j.Wrote ([] : List (Event ε)) j' :=
  ⟨h, [], by rw [hlines, List.flatten_nil, List.append_nil], .nil⟩

/-- Events one after the other leave what both leave. -/
lemma Wrote.trans (h : j.Wrote es j') (h' : j'.Wrote es' j'') : j.Wrote (es ++ es') j'' := by
  obtain ⟨chunks, hlines, hrecords⟩ := h.lines
  obtain ⟨chunks', hlines', hrecords'⟩ := h'.lines
  refine ⟨h.akin.trans h'.akin, chunks ++ chunks', ?_, ?_⟩
  · rw [hlines', hlines, List.flatten_append, List.append_assoc]
  · exact List.rel_append hrecords (hrecords'.imp fun _ _ => h.akin.records)

/-- One event leaves its lines. -/
lemma wrote_singleton {e : Event ε} {chunk : List (File × String)} (h : j.Akin j')
    (hlines : j'.lines = j.lines ++ chunk) (hrecords : Records j e chunk) : j.Wrote [e] j' :=
  ⟨h, [chunk], by rw [hlines, List.flatten_singleton], .cons hrecords .nil⟩

/-- Reading the timer leaves no line. -/
lemma wrote_afterTimer (j : Journal) : j.Wrote ([] : List (Event ε)) j.afterTimer := by
  exact j.alike_afterTimer.akin.wrote rfl

/-- The files of an entry around a block. -/
lemma placesOf_of_not_severe (j : Journal) (context : Members) {level : Level}
    (h : isSevere level = false) :
    j.placesOf (Entry.homeOf (context.get? "component")) level =
      if j.level ≤ level.number then [j.fileOf context] else [] := by
  rw [placesOf]
  by_cases hkeeps : j.level ≤ level.number
  · rw [if_pos hkeeps, if_pos ((j.keeps_iff level).2 hkeeps), fileOf, withErrors, h]
    cases j.routing <;> rfl
  · rw [if_neg hkeeps, if_neg (mt (j.keeps_iff level).1 hkeeps)]

/-- The lines after an entry was put into files. -/
lemma lines_put (j : Journal) (files : List File) (e : Entry) :
    (j.put files e).lines = j.lines ++ files.map fun f => (f, j.lineOf (e, j.clock.day.next)) := by
  unfold put
  split
  · rename_i hnone
    rw [List.isEmpty_iff.1 hnone, List.map_nil, List.append_nil]
  · rfl

variable {operation : Value} {context : Members}

/-- **The start of a block leaves its entry.** -/
theorem wrote_started (h : Suitable operation context) (j : Journal) :
    j.Wrote [(.started operation context : Event ε)]
      (j.enter (Entry.homeOf (context.get? "component")) (startedEntry operation context)) := by
  refine wrote_singleton (j.alike_enter _ _).akin (j.lines_put _ _) ?_
  have hread := Entry.read_line
    (h.writable_started.fault?_eq_none j.clock.day.next j.correlation)
  rw [j.placesOf_of_not_severe context rfl]
  split
  · rename_i hle
    exact .started hle (@Suitable.marks _ _ h _ _ [("operation", operation)]
      (List.pairwise_singleton _ _) (fun name hname => .inl (List.mem_singleton.1 hname)) rfl _ _)
      hread
  · rename_i hlt
    exact .startedUnseen (Int.not_le.1 hlt)

/-- **The end of a block leaves its entry.** -/
theorem wrote_completed (h : Suitable operation context) (start stop : Binary64) (j : Journal) :
    j.Wrote [(.completed operation context : Event ε)]
      (j.enter (Entry.homeOf (context.get? "component"))
        (completedEntry operation context start stop)) := by
  refine wrote_singleton (j.alike_enter _ _).akin (j.lines_put _ _) ?_
  have hread := Entry.read_line
    ((h.writable_completed start stop).fault?_eq_none j.clock.day.next j.correlation)
  rw [j.placesOf_of_not_severe context rfl]
  split
  · rename_i hle
    have hdistinct : [("operation" : Text), "duration_seconds"].Nodup := by decide
    exact .completed hle (@Suitable.marks _ _ h _ _ [("operation", operation),
      ("duration_seconds", .float ((stop.sub start).roundPlaces 3))] hdistinct
      (fun name hname => by simpa [Keyed.keys] using hname) rfl _ _) hread
  · rename_i hlt
    exact .completedUnseen (Int.not_le.1 hlt)

/-- An entry that is not refused leaves its lines. -/
lemma wrote_logged {e : Entry} {files : List File} (h : j.destinations e = .ok files) :
    j.Wrote [(.logged e files : Event ε)] (j.put files e) := by
  refine wrote_singleton (j.alike_put files e).akin (j.lines_put files e)
    (.logged j.clock.day.next j.correlation fun hfiles => Entry.read_line ?_)
  -- the line of an entry that has files was put together
  unfold destinations lineFault? at h
  grind

end Journal

namespace Activity

variable {ε : Type} {refuse : Fault → ε}

/-- **A program ends as its events tell, and leaves what they leave.**

**Proof sketch.** Induction on the program. A tracked block is the block between its two entries
(`track_of_suitable`), whether the block ends with an exception or not. -/
theorem run_story {a : Activity ε} (ha : a.Tracked) (j : Journal) :
    let told := a.story refuse j.destinationsUnder j.correlation
    (a.run refuse j).1 = told.result ∧ (a.run refuse j).2.correlation = told.correlation ∧
      j.Wrote told.events (a.run refuse j).2 := by
  induction a generalizing j with
  | nothing => exact ⟨rfl, rfl, (Journal.Akin.refl j).wrote rfl⟩
  | setCorrelation id => exact ⟨rfl, rfl, Journal.Akin.wrote ⟨rfl, rfl⟩ rfl⟩
  | clearCorrelation => exact ⟨rfl, rfl, Journal.Akin.wrote ⟨rfl, rfl⟩ rfl⟩
  | raise x =>
    exact ⟨rfl, rfl, Journal.wrote_singleton (.refl j) (List.append_nil _).symm .raised⟩
  | entry e =>
    have hunder : j.destinationsUnder j.correlation e = j.destinations e := rfl
    rw [run, story, Journal.tryWrite, Journal.write, hunder]
    cases hfiles : j.destinations e with
    | ok files => exact ⟨rfl, (j.alike_put files e).correlation, Journal.wrote_logged hfiles⟩
    | error f =>
      exact ⟨rfl, rfl, Journal.wrote_singleton (.refl j) (List.append_nil _).symm .raised⟩
  | seq first second ihfirst ihsecond =>
    have hfirst := ihfirst ha.1 j
    rw [run, story]
    generalize first.run refuse j = ended at hfirst ⊢
    generalize first.story refuse j.destinationsUnder j.correlation = told at hfirst ⊢
    obtain ⟨result, j'⟩ := ended
    obtain ⟨es, result', id⟩ := told
    obtain ⟨rfl : result = result', rfl : j'.correlation = id, (hwrote : j.Wrote es j')⟩ := hfirst
    cases result with
    | error x => exact ⟨rfl, rfl, hwrote⟩
    | ok _ =>
      obtain ⟨hresult, hid, hwrote'⟩ := ihsecond ha.2 j'
      rw [hwrote.akin.destinationsUnder_eq] at hresult hid hwrote'
      exact ⟨hresult, hid, hwrote.trans hwrote'⟩
  | block operation context body ih =>
    obtain ⟨hcontext, hbody⟩ := ha
    rw [run, track_of_suitable hcontext]
    let own := Entry.homeOf (context.get? "component")
    have hstarted : j.Wrote [(.started operation context : Event ε)]
        (j.afterTimer.enter own (startedEntry operation context)) :=
      (Journal.wrote_afterTimer j).trans (Journal.wrote_started hcontext j.afterTimer)
    have hopened : (j.afterTimer.enter own (startedEntry operation context)).correlation =
        j.correlation := (j.afterTimer.alike_enter own _).correlation
    obtain ⟨hresult, hid, hwrote⟩ :=
      ih hbody (j.afterTimer.enter own (startedEntry operation context))
    rw [hstarted.akin.destinationsUnder_eq, hopened] at hresult hid hwrote
    refine ⟨hresult, ?_, (hstarted.trans hwrote).trans ?_⟩
    · exact (Journal.alike_enter _ own _).correlation.trans hid
    -- the end of the block is logged whatever its result is
    · exact (Journal.wrote_afterTimer _).trans (Journal.wrote_completed hcontext _ _ _)
  | attempt body handler ihbody ihhandler =>
    have hbody := ihbody ha.1 j
    rw [run, story]
    generalize body.run refuse j = ended at hbody ⊢
    generalize body.story refuse j.destinationsUnder j.correlation = told at hbody ⊢
    obtain ⟨result, j'⟩ := ended
    obtain ⟨es, result', id⟩ := told
    obtain ⟨rfl : result = result', rfl : j'.correlation = id, (hwrote : j.Wrote es j')⟩ := hbody
    cases result with
    | ok _ => exact ⟨rfl, rfl, hwrote⟩
    | error x =>
      obtain ⟨hresult, hid, hwrote'⟩ := ihhandler x (ha.2 x) j'
      rw [hwrote.akin.destinationsUnder_eq] at hresult hid hwrote'
      exact ⟨hresult, hid, hwrote.trans hwrote'⟩

/-- **Tracked blocks are bracketed by their entries.** A program whose blocks have suitable contexts
ends as its events tell, and leaves the lines of these events, in order: for each block that it
runs, one line when it starts and one when it ends, the first one up to the level of details and the
other one up to the level of information, which are read back as records with the operation and the
context of the block. These events are properly nested, and when the program ends with an exception,
nothing comes behind this exception but the ends of the blocks that are open, from the innermost one
on.

**Proof sketch.** Each construct leaves what its events leave (`run_story`). Events are nested
because a block is completed however it ends (`nested_story`); what comes before an exception leaves
the blocks open that the exception leaves (`unwinding`). -/
theorem run_brackets {a : Activity ε} (ha : a.Tracked) (refuse : Fault → ε) (j : Journal) :
    let told := a.story refuse j.destinationsUnder j.correlation
    (a.run refuse j).1 = told.result ∧ Nested told.events ∧
      (∃ chunks, (a.run refuse j).2.lines = j.lines ++ chunks.flatten ∧
        List.Forall₂ (Journal.Records j) told.events chunks) ∧
      ∀ x, told.result = .error x → ∃ before,
        told.events = before ++ .raised x ::
          (openBlocks [] before).map fun b => .completed b.1 b.2 := by
  intro told
  obtain ⟨hresult, -, hwrote⟩ := @run_story _ refuse _ ha j
  refine ⟨hresult, nested_story a j.correlation, hwrote.lines, fun x hx => ?_⟩
  obtain ⟨before, left, hes, hopen⟩ := unwinding hx
  have hleft : openBlocks [] before = left := (hopen []).trans (List.append_nil left)
  exact ⟨before, hleft ▸ hes⟩

/-- An exception that leaves two blocks arrives outside, and the inner one is completed first: there
are four lines, which are read back with these messages. -/
theorem run_brackets_two :
    let id : CorrelationId := ⟨.text "r-1", Json.fault?_text _ _⟩
    let failing : Activity Nat := .block (.text "outer") [("table", .text "incident")]
      (.seq (.setCorrelation id)
        (.block (.text "inner") [("component", .text "query")] (.raise 7)))
    failing.Tracked ∧ (failing.run (fun _ => 0) Journal.plain).1 = .error 7 ∧
      ∃ lines : List (File × String), (failing.run (fun _ => 0) Journal.plain).2.lines = lines ∧
        List.Forall₂ (fun line message => line.1 = Prod.fst message ∧ ∃ members : Members,
          Json.read line.2 = .ok (Json.image (.ofMembers members)) ∧
            members.get? "message" = some (.text (Prod.snd message))) lines
          [(.system, "outer_started"), (.requests, "inner_started"),
            (.requests, "inner_completed"), (.system, "outer_completed")] := by
  intro id failing
  have htext (name : Text) (t : Text) :
      ∀ detail ∈ [(name, Value.text t)], Json.fault? detail.2 (maxNesting - 1) = none :=
    List.forall_mem_singleton.2 (Json.fault?_text t _)
  have houter : Suitable (.text "outer") [("table", .text "incident")] :=
    ⟨rfl, Json.fault?_text _ _, htext _ _, List.pairwise_singleton _ _, by decide, .inl rfl⟩
  have hinner : Suitable (.text "inner") [("component", .text "query")] :=
    ⟨rfl, Json.fault?_text _ _, htext _ _, List.pairwise_singleton _ _, by decide,
      .inr ⟨"query", rfl, by decide⟩⟩
  have htracked : failing.Tracked := ⟨houter, trivial, hinner, trivial⟩
  obtain ⟨hresult, -, ⟨chunks, hlines, hrecords⟩, -⟩ :=
    run_brackets htracked (fun _ => 0) Journal.plain
  obtain _ | ⟨h1, _ | ⟨h2, _ | ⟨h3, _ | ⟨h4, _ | ⟨h5, _ | _⟩⟩⟩⟩⟩ := hrecords
  cases h3
  obtain ⟨l1, rfl, m1, hread1, hmarks1⟩ := h1.line_of_started (by decide)
  obtain ⟨l2, rfl, m2, hread2, hmarks2⟩ := h2.line_of_started (by decide)
  obtain ⟨l4, rfl, m4, hread4, hmarks4⟩ := h4.line_of_completed (by decide)
  obtain ⟨l5, rfl, m5, hread5, hmarks5⟩ := h5.line_of_completed (by decide)
  refine ⟨htracked, hresult, _, hlines, ?_⟩
  exact .cons ⟨rfl, m1, hread1, hmarks1.message⟩ (.cons ⟨rfl, m2, hread2, hmarks2.message⟩
    (.cons ⟨rfl, m4, hread4, hmarks4.message⟩ (.cons ⟨rfl, m5, hread5, hmarks5.message⟩ .nil)))

/-! ### Sessions -/

variable {ρ : Type}

mutual

/-- A step of a session as a program. -/
def ofStep : Step ρ → Activity (StepFault ρ)
  | .entry level message details => .entry ⟨level, message, details⟩
  | .setCorrelation id => .setCorrelation (id.getD freshCorrelation)
  | .clearCorrelation => .clearCorrelation
  | .close => .nothing
  | .reject reason => .raise (.rejected reason)
  | .track operation context steps fails =>
    .block operation context
      (.seq (ofSteps steps) (if fails then .raise .interrupted else .nothing))

/-- The steps of a session as a program, which goes on after a step that fails. -/
def ofSteps : List (Step ρ) → Activity (StepFault ρ)
  | [] => .nothing
  | s :: steps => .seq (.attempt (ofStep s) fun _ => .nothing) (ofSteps steps)

end

/-- A tracked block whose value is replaced is tracked in the same way. -/
lemma track_map {σ α β : Type} [Journaled σ] (f : α → β) (operation : Value) (context : Members)
    (body : σ → Except ε α × σ) (s : σ) :
    track refuse operation context (fun s => ((body s).1.map f, (body s).2)) s =
      ((track refuse operation context body s).1.map f,
        (track refuse operation context body s).2) := by
  unfold track
  split
  · rfl
  · dsimp only
    split
    · rfl
    · split
      · rfl
      · split
        · cases (body _).1 <;> rfl
        · split <;> rfl

mutual

/-- A step leaves what its program leaves. -/
theorem run_ofStep (s : Step ρ) (j : Journal) :
    ((ofStep s).run .refused j).2 = (runStep j s).2 := by
  cases s with
  | entry level message details =>
    rw [ofStep, run, runStep]
    generalize j.tryWrite ⟨level, message, details⟩ = written
    obtain ⟨_ | _, j'⟩ := written <;> rfl
  | setCorrelation id | clearCorrelation | close | reject reason => rw [ofStep, run, runStep]
  | track operation context steps fails =>
    let body (j : Journal) : Except (StepFault ρ) (Reply ρ) × Journal :=
      (if fails then .error .interrupted else .ok (.replies (runSteps j steps).1),
        (runSteps j steps).2)
    have hbody : ((ofSteps steps).seq (if fails then .raise .interrupted else .nothing)).run
        StepFault.refused = fun j => ((body j).1.map fun _ => (), (body j).2) := by
      funext j
      rw [run, run_ofSteps steps j]
      cases fails <;> rfl
    rw [ofStep, run, hbody, track_map, runStep]

/-- **The steps of a session leave what their program leaves.** -/
theorem run_ofSteps (steps : List (Step ρ)) (j : Journal) :
    (ofSteps steps).run .refused j = (.ok (), (runSteps j steps).2) := by
  cases steps with
  | nil => rfl
  | cons s steps =>
    have hstep := run_ofStep s j
    rw [ofSteps, run, run, runSteps]
    generalize (ofStep s).run .refused j = ended at hstep ⊢
    obtain ⟨result, j'⟩ := ended
    obtain rfl : j' = (runStep j s).2 := hstep
    cases result <;> exact run_ofSteps steps _

end

/-- **The lines of a session are bracketed** as those of its program. -/
theorem lines_runSteps {steps : List (Step ρ)} (h : (ofSteps steps).Tracked) (j : Journal) :
    let told := (ofSteps steps).story .refused j.destinationsUnder j.correlation
    Nested told.events ∧ ∃ chunks, (runSteps j steps).2.lines = j.lines ++ chunks.flatten ∧
      List.Forall₂ (Journal.Records j) told.events chunks := by
  intro told
  obtain ⟨-, -, hwrote⟩ := @run_story _ StepFault.refused _ h j
  rw [run_ofSteps] at hwrote
  exact ⟨nested_story _ _, hwrote.lines⟩

end Activity

end TableClient.Log
