import TableClient.Proofs.Log.Routing
import TableClient.Proofs.Text.Reading

set_option relaxedAutoImplicit false
set_option autoImplicit false

/-!
# One line for each entry

Whatever characters the message and the details of an entry have, its line is made of printable
ASCII characters only. So the lines of a file are what stands between the line ends in it, one for
each entry that is sent to the file, and nothing that is logged can look like another entry.

A line is read back as a record of all that the entry tells: what it is stamped with, its message
and its details, and the correlation id that was in force, which is the last one that was set,
unless it was cleared since. Only an entry that is nested too deeply has no line; it is refused.

## Main definitions

* `TableClient.Log.Entry.Loggable`, `TableClient.Log.Loggable` — the entries whose message and
  details JSON text stands for, and the steps of a session that log such entries and change the
  correlation id.
* `TableClient.Log.Entry.told` — what an entry tells under a name.
* `TableClient.Log.Entry.RecordedBy` — a line that is read back as an entry.
* `TableClient.Log.stages`, `TableClient.Log.logged` — the steps and the entries of a session with
  the correlation ids in force.

## Main results

* `TableClient.Log.Entry.recordedBy_line` — the line of an entry.
* `TableClient.Log.linesOf_taken` — the lines that a session adds to a file.
* `TableClient.Log.one_line_each` — the lines of a file are the entries that are sent to it.
-/

namespace TableClient.Log

/-! ### The line of an entry -/

namespace Entry

variable {e : Entry} {correlation : Option CorrelationId} {now : DateTime}

/-- An entry whose message and details are values that JSON text stands for. Its details have
distinct names of characters, none of which is reserved, and name no component but by a text other
than `_errors`. -/
structure Loggable (e : Entry) : Prop where
  ordinary : e.Ordinary
  stays : e.strays = false
  message : Json.Faithful e.message
  distinct : e.details.keys.Nodup
  names : ∀ detail ∈ e.details, ∃ cs, detail.1 = .ofChars cs
  values : ∀ detail ∈ e.details, Json.Faithful detail.2

/-- What an entry tells under a name: the correlation id, if it counts as set, or else the detail of
this name, or else what every entry is stamped with. -/
def told (e : Entry) (now : DateTime) (correlation : Option CorrelationId) (name : Text) :
    Option Value :=
  if name = "correlation_id" ∧ correlation.any (·.value.isTruthy) then correlation.map (·.value)
  else (e.details.get? name).or <|
    if name = "timestamp" then some (.text (timeText now))
    else if name = "level" then some (.text e.level.name)
    else if name = "message" then some e.message
    else none

/-- A line that is an entry: it is made of printable ASCII characters, and it is read back as a
record of what the entry tells. -/
structure RecordedBy (e : Entry) (now : DateTime) (correlation : Option CorrelationId)
    (line : String) : Prop where
  printable : ∀ c ∈ line.toList, Json.IsPlainAscii c
  readable : ∃ members : Members, Json.read line = .ok (.ofMembers members) ∧
    members.keys.Nodup ∧ ∀ name, members.get? name = e.told now correlation name

/-- **What an entry has under a name is what it tells.** -/
theorem get?_members_eq_told (hdistinct : e.details.keys.Nodup) (now : DateTime)
    (correlation : Option CorrelationId) (name : Text) :
    (e.members now correlation).get? name = e.told now correlation name := by
  have hall : (e.members now none).get? name = e.told now none name := by
    rw [members, Keyed.get?_insertAll hdistinct, told, if_neg (by simp)]
    simp only [Keyed.get?, beq_iff_eq, eq_comm (b := name)]
  by_cases hname : name = "correlation_id"
  · subst hname
    cases correlation with
    | none => exact hall
    | some id =>
      unfold members told at *
      cases hid : id.value.isTruthy with
      | false => simpa [hid] using hall
      | true => simp [hid, Keyed.get?_insert_self]
  · have htold : e.told now correlation name = e.told now none name := by
      simp only [told, hname, false_and, if_false]
    rw [get?_members e now correlation (Ne.symm hname), hall, htold]

/-- The record of an entry is a value that JSON text stands for. -/
lemma Loggable.faithful_members (he : e.Loggable)
    (hid : ∀ id, correlation = some id → Json.Faithful id.value) (now : DateTime) :
    Json.Faithful (.ofMembers (e.members now correlation)) := by
  have hall : ∀ member ∈ e.members now correlation,
      (∃ cs, member.1 = .ofChars cs) ∧ Json.Faithful member.2 := by
    refine forall_mem_members ?_ (fun detail h => ⟨he.names detail h, he.values detail h⟩)
      fun id h => ⟨⟨_, rfl⟩, hid id h⟩
    simp only [List.forall_mem_cons, List.not_mem_nil, false_imp_iff, implies_true, and_true]
    exact ⟨⟨⟨_, rfl⟩, .text _⟩, ⟨⟨_, rfl⟩, .text _⟩, ⟨_, rfl⟩, he.message⟩
  refine .record (Json.apart_of_distinct (e.nodup_members now correlation)) ?_ ?_
  · intro entry hentry
    obtain ⟨member, hmember, rfl⟩ := List.mem_map.1 hentry
    exact (hall member hmember).1.imp fun _ h => congrArg Value.text h
  · intro entry hentry
    obtain ⟨member, hmember, rfl⟩ := List.mem_map.1 hentry
    exact (hall member hmember).2

/-- **The line of an entry that can be written is read back as what the entry tells**, and is
printable. -/
theorem recordedBy_line (he : e.Loggable)
    (hid : ∀ id, correlation = some id → Json.Faithful id.value)
    (hline : e.fault? now correlation = none) :
    e.RecordedBy now correlation (e.line now correlation) := by
  have hfaithful := he.faithful_members hid now
  refine ⟨e.plain_line now correlation, e.members now correlation, ?_,
    e.nodup_members now correlation, get?_members_eq_told he.distinct now correlation⟩
  rw [read_line hline, Json.image_of_faithful hfaithful]

end Entry

/-! ### Sessions -/

variable {ρ : Type} {j : Journal} {steps : List (Step ρ)}

/-- The entry that a step logs. -/
def Step.content? : Step ρ → Option Entry
  | .entry level message details => some ⟨level, message, details⟩
  | _ => none

/-- The correlation id in force after a step: the one that is set, which is a fresh one if none is
given, unless the step clears it. -/
def Step.idAfter (correlation : Option CorrelationId) : Step ρ → Option CorrelationId
  | .setCorrelation id => some (id.getD freshCorrelation)
  | .clearCorrelation => none
  | _ => correlation

/-- The steps of a session, each with the correlation id in force. -/
def stages (correlation : Option CorrelationId) :
    List (Step ρ) → List (Step ρ × Option CorrelationId)
  | [] => []
  | s :: steps => (s, correlation) :: stages (s.idAfter correlation) steps

/-- The entries that a session logs, each with the correlation id in force. -/
def logged (correlation : Option CorrelationId) (steps : List (Step ρ)) :
    List (Entry × Option CorrelationId) :=
  (stages correlation steps).filterMap fun s => s.1.content?.map (·, s.2)

/-- A step that logs an entry of values that JSON text stands for, or that changes the correlation
id. -/
inductive Loggable : Step ρ → Prop where
  | entry {e : Entry} : e.Loggable → Loggable (e.step ρ)
  | setCorrelation {id : Option CorrelationId} : (∀ v, id = some v → Json.Faithful v.value) →
    Loggable (.setCorrelation id)
  | clearCorrelation : Loggable .clearCorrelation

namespace Journal

/-- The journal with a correlation id in force. -/
def under (j : Journal) (correlation : Option CorrelationId) : Journal :=
  { j with correlation := correlation }

/-- Whether a journal takes an entry that is logged with a correlation id in force: it is severe
enough to be kept, and its line can be put together. -/
def takes (j : Journal) (s : Entry × Option CorrelationId) : Bool :=
  j.keeps s.1.level && ((j.under s.2).lineFault? s.1).isNone

/-- The entries that a journal takes, each with the time that it is stamped with. -/
def taken (j : Journal) (steps : List (Step ρ)) :
    List ((Entry × Option CorrelationId) × DateTime) :=
  j.clock.day.along ((logged j.correlation steps).filter j.takes)

/-- A step is answered as its entry is, or it succeeds. -/
def Answers (j : Journal) (s : Step ρ × Option CorrelationId)
    (reply : Except (StepFault ρ) (Reply ρ)) : Prop :=
  match s.1.content? with
  | some e => reply = (j.under s.2).answer e
  | none => ∃ r, reply = .ok r

/-- Journals that are alike answer steps in the same way. -/
lemma Alike.answers_eq {j' : Journal} (h : j.Alike j') :
    (j'.Answers : Step ρ × Option CorrelationId → _ → Prop) = j.Answers := by
  funext s reply
  have hunder : (j.under s.2).Alike (j'.under s.2) := ⟨h.routing, h.threshold, rfl⟩
  unfold Answers
  cases s.1.content? with
  | none => rfl
  | some e => exact congrArg (reply = ·) (hunder.answer_eq e)

/-- Journals that are alike take the same entries. -/
lemma Alike.takes_eq {j' : Journal} (h : j.Alike j') : j'.takes = j.takes := by
  funext s
  have hunder : (j.under s.2).Alike (j'.under s.2) := ⟨h.routing, h.threshold, rfl⟩
  rw [takes, takes, h.keeps_eq, hunder.lineFault?_eq]

/-- Journals that are alike send entries to the same files. -/
lemma Alike.sends_eq {j' : Journal} (h : j.Alike j') : j'.sends = j.sends := by
  funext e f
  rw [sends, sends, h.keeps_eq, h.routing]

/-- **An entry that does not stray is answered, and it is written to the file that it belongs in**
if the journal takes it. -/
theorem runStep_of_stays {e : Entry} (he : e.Ordinary) (hstays : e.strays = false) :
    runStep j (e.step ρ) =
      (j.answer e, if j.takes (e, j.correlation) then j.enter e.home e else j) := by
  have hgoes := he.goesTo hstays
  have htakes : j.takes (e, j.correlation) = (j.keeps e.level && (j.lineFault? e).isNone) := rfl
  rw [Entry.step, runStep, j.tryWrite_eq hgoes, j.refusal?_eq he.unreserved hgoes, answer, htakes]
  unfold examines
  cases hkeeps : j.keeps e.level with
  | true =>
    rw [Bool.or_true]
    cases j.lineFault? e <;> rfl
  | false =>
    rw [enter_of_unkept e.home hkeeps]
    cases j.routing with
    | files => rfl
    | stream => cases j.lineFault? e <;> rfl

end Journal

/-- **The lines that a session adds to a file**: one for each entry that is taken and sent to it, in
order, with the correlation id in force. Every step is answered.

**Proof sketch.** Induction on the steps. An entry that is taken adds its line to the files that it
is sent to (`Journal.linesOf_enter_home`), and takes up one reading of the day; a change of the
correlation id adds no line. -/
theorem linesOf_taken (hsteps : ∀ s ∈ steps, Loggable s) :
    List.Forall₂ j.Answers (stages j.correlation steps) (runSteps j steps).1 ∧
      ∀ f, (runSteps j steps).2.linesOf f = j.linesOf f ++
        ((j.taken steps).filter fun s => j.sends s.1.1 f).map
          fun s => s.1.1.line s.2 s.1.2 := by
  induction steps generalizing j with
  | nil => exact ⟨.nil, fun f => (List.append_nil _).symm⟩
  | cons s steps ih =>
    obtain ⟨hstep, hrest⟩ := List.forall_mem_cons.1 hsteps
    cases hstep with
    | @entry e he =>
      have hrun := @Journal.runStep_of_stays ρ j e he.ordinary he.stays
      have hlogged : logged j.correlation (e.step ρ :: steps) =
          (e, j.correlation) :: logged j.correlation steps := rfl
      rw [runSteps, hrun]
      cases htakes : j.takes (e, j.correlation) with
      | false =>
        obtain ⟨hreplies, hlines⟩ := ih (j := j) hrest
        have htaken : j.taken (e.step ρ :: steps) = j.taken steps := by
          rw [Journal.taken, hlogged, List.filter_cons, htakes]
          rfl
        rw [htaken]
        exact ⟨.cons rfl hreplies, hlines⟩
      | true =>
        have halike := j.alike_enter e.home e
        have hkeeps : j.keeps e.level = true := (Bool.and_eq_true_iff.1 htakes).1
        obtain ⟨hreplies, hlines⟩ := ih (j := j.enter e.home e) hrest
        rw [halike.correlation, halike.answers_eq] at hreplies
        refine ⟨.cons rfl hreplies, fun f => (hlines f).trans ?_⟩
        have htaken : j.taken (e.step ρ :: steps) =
            ((e, j.correlation), j.clock.day.next) :: (j.enter e.home e).taken steps := by
          rw [Journal.taken, hlogged, List.filter_cons, htakes, if_pos rfl, Readings.along,
            Journal.taken, Journal.day_enter e.home hkeeps, halike.correlation, halike.takes_eq]
        rw [htaken, j.linesOf_enter_home, List.filter_cons, List.append_assoc, halike.sends_eq]
        cases j.sends e f <;> rfl
    | @setCorrelation id _ =>
      obtain ⟨hreplies, hlines⟩ := ih (j := j.setCorrelation (id.getD freshCorrelation)) hrest
      exact ⟨.cons ⟨_, rfl⟩ hreplies, hlines⟩
    | clearCorrelation =>
      obtain ⟨hreplies, hlines⟩ := ih (j := j.clearCorrelation) hrest
      exact ⟨.cons ⟨_, rfl⟩ hreplies, hlines⟩

/-- The text of a file with the given lines. -/
def fileText (lines : List String) : List Char := lines.flatMap fun line => line.toList ++ ['\n']

/-- Lines of printable characters are found in the text of the file. -/
lemma cut_fileText {lines : List String}
    (h : ∀ line ∈ lines, ∀ c ∈ line.toList, Json.IsPlainAscii c) :
    Text.cut '\n' (fileText lines) = lines.map String.toList ++ [[]] := by
  have hnone : ∀ part ∈ lines.map String.toList, '\n' ∉ part := by
    intro part hpart hend
    obtain ⟨line, hline, rfl⟩ := List.mem_map.1 hpart
    exact absurd (h line hline '\n' hend) (by decide)
  rw [← Text.cut_flatMap_terminated hnone, List.flatMap_map]
  rfl

/-- The entries that a session logs, and the ids in force, are values that JSON text stands for. -/
lemma loggable_of_mem_logged (hsteps : ∀ s ∈ steps, Loggable s)
    {correlation : Option CorrelationId}
    (hid : ∀ id, correlation = some id → Json.Faithful id.value) :
    ∀ s ∈ logged correlation steps,
      s.1.Loggable ∧ ∀ id, s.2 = some id → Json.Faithful id.value := by
  induction steps generalizing correlation with
  | nil => exact List.forall_mem_nil _
  | cons s steps ih =>
    obtain ⟨hstep, hrest⟩ := List.forall_mem_cons.1 hsteps
    cases hstep with
    | entry he => exact List.forall_mem_cons.2 ⟨⟨he, hid⟩, ih hrest hid⟩
    | @setCorrelation id hnew =>
      refine ih hrest fun v hv => ?_
      obtain rfl := Option.some.inj hv
      cases id with
      | none => exact .text _
      | some v => exact hnew v rfl
    | clearCorrelation => exact ih hrest fun _ h => nomatch h

/-- An entry with a time is one that is logged and taken. -/
lemma mem_of_mem_taken {s : (Entry × Option CorrelationId) × DateTime} (h : s ∈ j.taken steps) :
    s.1 ∈ logged j.correlation steps ∧ j.takes s.1 = true := by
  have hfirst : s.1 ∈ (j.taken steps).map Prod.fst := List.mem_map_of_mem h
  rw [Journal.taken, Readings.map_fst_along] at hfirst
  exact List.mem_filter.1 hfirst

end TableClient.Log
