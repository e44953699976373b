import Mathlib.Data.List.Forall2
import TableClient.Client.Connection
import TableClient.Proofs.Log.Writing
import TableClient.Proofs.Query.Check

set_option relaxedAutoImplicit false
set_option autoImplicit false

/-!
# Footprints on a channel

An action does three things to a channel: it sends requests, which meet the outcomes to come one
after the other, it reads the timer, and it writes entries of the requests. What it does is its
footprint, which says everything about the channel afterwards. Footprints of actions that follow
one another are put together, so that an action is described along its monadic structure by what it
results in and by the footprint that it leaves.

## Main definitions

* `TableClient.Client.Footprint` — what an action does to a channel.
* `TableClient.Client.Channel.after` — a channel with a footprint.
* `TableClient.Client.Leaves` — an action results in something and leaves a footprint.

## Main results

* `TableClient.Client.Channel.after_append` — footprints one after the other.
* `TableClient.Client.Leaves.bind`, `TableClient.Client.Leaves.bind_of_error` — actions one after
  the other.
* `TableClient.Client.Leaves.tracked` — a tracked action.
* `TableClient.Client.Channel.linesOf_after`, `TableClient.Client.Channel.linesOf_errors_after` —
  the lines that a footprint adds to the journal.
* `TableClient.Client.Channel.readFrom_linesOf_after` — these lines are read back.
-/

namespace TableClient.Client

open Log (Component Entry Journal Level)

/-- What an action does to a channel: the requests that it sends, how often it reads the timer, and
the entries of the requests that it writes. -/
structure Footprint where
  sent : List Request := []
  readings : Nat := 0
  entries : List Entry := []

namespace Footprint

/-- Entries only. -/
def writes (es : List Entry) : Footprint where
  entries := es

/-- One footprint after the other. -/
def append (f g : Footprint) : Footprint :=
  ⟨f.sent ++ g.sent, f.readings + g.readings, f.entries ++ g.entries⟩

instance : Append Footprint := ⟨append⟩

/-- Several footprints, one after the other. -/
def joined (fs : List Footprint) : Footprint := fs.foldr append (writes [])

variable (f g : Footprint)

@[simp] lemma sent_append : (f ++ g).sent = f.sent ++ g.sent := rfl

@[simp] lemma readings_append : (f ++ g).readings = f.readings + g.readings := rfl

@[simp] lemma entries_append : (f ++ g).entries = f.entries ++ g.entries := rfl

@[simp] lemma entries_writes (es : List Entry) : (writes es).entries = es := rfl

@[simp] lemma joined_cons (fs : List Footprint) : joined (f :: fs) = f ++ joined fs := rfl

@[simp] lemma sent_joined (fs : List Footprint) : (joined fs).sent = fs.flatMap sent := by
  induction fs with
  | nil => rfl
  | cons f fs ih => rw [joined_cons, sent_append, ih, List.flatMap_cons]

@[simp] lemma entries_joined (fs : List Footprint) : (joined fs).entries = fs.flatMap entries := by
  induction fs with
  | nil => rfl
  | cons f fs ih => rw [joined_cons, entries_append, ih, List.flatMap_cons]

/-- Nothing comes before a footprint. -/
@[simp] lemma writes_nil_append : writes [] ++ f = f := by
  show Footprint.mk ([] ++ f.sent) (0 + f.readings) ([] ++ f.entries) = f
  rw [Nat.zero_add, List.nil_append, List.nil_append]

/-- Nothing comes after a footprint. -/
@[simp] lemma append_writes_nil : f ++ writes [] = f := by
  show Footprint.mk (f.sent ++ []) (f.readings + 0) (f.entries ++ []) = f
  rw [Nat.add_zero, List.append_nil, List.append_nil]

end Footprint

namespace Channel

variable (ch : Channel) (f g : Footprint)

/-- What will happen to the next request. -/
def next : Outcome := ch.coming.head?.getD (.response .noRecords)

/-- The next reading of the timer. -/
def reading : Binary64 := ch.journal.readTimer.1

/-- The reading of the timer after the next one. -/
def laterReading : Binary64 := ch.journal.afterTimer.readTimer.1

/-- The channel with a footprint. -/
def after : Channel where
  coming := ch.coming.drop f.sent.length
  sent := ch.sent ++ f.sent
  closings := ch.closings
  journal := (ch.journal.afterTimers f.readings).enterAll .requests f.entries

/-- A channel to which no request is sent. -/
lemma after_of_unsent (n : Nat) (es : List Entry) :
    ch.after ⟨[], n, es⟩ =
      { ch with journal := (ch.journal.afterTimers n).enterAll .requests es } := by
  rw [after, List.append_nil]
  rfl

/-- The channel without a footprint. -/
@[simp] lemma after_writes_nil : ch.after (.writes []) = ch := ch.after_of_unsent 0 []

/-- **Footprints one after the other are one footprint**, as entries and readings of the timer do
not depend on their order. -/
@[simp] theorem after_append : (ch.after f).after g = ch.after (f ++ g) := by
  simp only [after, Footprint.sent_append, Footprint.readings_append, Footprint.entries_append,
    List.drop_drop, List.append_assoc, List.length_append, Journal.afterTimers_add,
    Journal.enterAll_append, Journal.afterTimers_enterAll]

/-- Entries and readings of the timer do not change what will happen to the next request. -/
@[simp] lemma next_after_of_unsent (h : f.sent = []) : (ch.after f).next = ch.next := by
  show ((ch.coming.drop f.sent.length).head?).getD _ = _
  rw [h]
  rfl

/-- Entries do not change the next reading of the timer. -/
@[simp] lemma reading_after_writes (es : List Entry) :
    (ch.after (.writes es)).reading = ch.reading := by
  show (ch.journal.enterAll .requests es).readTimer.1 = _
  rw [Journal.readTimer_enterAll]
  rfl

/-- Entries do not change the reading of the timer after the next one. -/
@[simp] lemma laterReading_after_writes (es : List Entry) :
    (ch.after (.writes es)).laterReading = ch.laterReading := by
  have htimer : (ch.after (.writes es)).journal.afterTimer =
      ch.journal.afterTimer.enterAll .requests es := ch.journal.afterTimers_enterAll .requests es 1
  rw [laterReading, htimer, Journal.readTimer_enterAll]
  rfl

/-! ### The journal of a channel with a footprint -/

/-- A footprint leaves the settings and the correlation id of the journal alone. -/
lemma alike_after : ch.journal.Alike (ch.after f).journal :=
  (ch.journal.alike_afterTimers f.readings).trans (Journal.alike_enterAll _ _ _)

variable {ch f}

/-- The lines that a footprint adds to the file of the requests: those of its entries, with the next
readings of the day. -/
lemma linesOf_after (h : ch.journal.Detailed) :
    (ch.after f).journal.linesOf .requests =
      ch.journal.linesOf .requests ++
        (ch.journal.clock.day.along f.entries).map ch.journal.lineOf := by
  have halike := ch.journal.alike_afterTimers f.readings
  rw [after, Journal.linesOf_enterAll (halike.detailed h) (by decide), halike.lineOf_eq,
    Journal.linesOf_afterTimers, (ch.journal.afterTimers_lines f.readings).2]

/-- The lines that a footprint adds to the file of errors: those of its severe entries. -/
lemma linesOf_errors_after (h : ch.journal.Detailed) :
    (ch.after f).journal.linesOf .errors =
      ch.journal.linesOf .errors ++
        ((ch.journal.clock.day.along f.entries).filter fun s =>
          Journal.isSevere s.1.level).map ch.journal.lineOf := by
  have halike := ch.journal.alike_afterTimers f.readings
  rw [after, Journal.linesOf_errors_enterAll (halike.detailed h) (by decide), halike.lineOf_eq,
    Journal.linesOf_afterTimers, (ch.journal.afterTimers_lines f.readings).2]

/-- **The lines that a footprint adds to the file of the requests are read back** as its entries, if
none of them is refused. -/
theorem readFrom_linesOf_after (h : ch.journal.Detailed)
    (hentries : ∀ e ∈ f.entries, ch.journal.refusal? e = none) :
    ∃ lines, (ch.after f).journal.linesOf .requests = ch.journal.linesOf .requests ++ lines ∧
      List.Forall₂ (fun s line => s.1.ReadFrom s.2 ch.journal.correlation line)
        (ch.journal.clock.day.along f.entries) lines := by
  refine ⟨_, linesOf_after h, ?_⟩
  rw [List.forall₂_map_right_iff, List.forall₂_same]
  intro s hs
  have hmem : s.1 ∈ (ch.journal.clock.day.along f.entries).map Prod.fst := List.mem_map_of_mem hs
  rw [Log.Readings.map_fst_along] at hmem
  exact h.readFrom_lineOf (hentries s.1 hmem) s.2

end Channel

/-! ### Actions and their footprints -/

/-- An action on a channel results in something and leaves a footprint. -/
def Leaves {α : Type} (x : Action α) (ch : Channel) (result : Except Fault α) (f : Footprint) :
    Prop :=
  x.run ch = (result, ch.after f)

namespace Leaves

variable {α β : Type} {x : Action α} {k : α → Action β} {ch : Channel} {a : α} {fault : Fault}
  {f g both : Footprint}

/-- A computation leaves no footprint. -/
lemma lift (result : Except Fault α) (ch : Channel) :
    Leaves (liftExcept result) ch result (.writes []) := by
  unfold Leaves
  rw [ch.after_writes_nil]
  cases result <;> rfl

/-- A value leaves no footprint. -/
lemma pure (a : α) (ch : Channel) : Leaves (Pure.pure a) ch (.ok a) (.writes []) :=
  lift (.ok a) ch

/-- A fault leaves no footprint. -/
lemma throw (fault : Fault) (ch : Channel) :
    Leaves (throwThe Fault fault : Action α) ch (.error fault) (.writes []) :=
  lift (.error fault) ch

/-- **An action that succeeds is followed by the next one** on the channel with its footprint. -/
theorem bind {result : Except Fault β} (hx : Leaves x ch (.ok a) f)
    (hk : Leaves (k a) (ch.after f) result g) (hboth : f ++ g = both) :
    Leaves (x >>= k) ch result both := by
  unfold Leaves at *
  rw [run_bind, hx, ← hboth, ← ch.after_append]
  exact hk

/-- **An action that fails is not followed by the next one.** -/
theorem bind_of_error (hx : Leaves x ch (.error fault) f) :
    Leaves (x >>= k) ch (.error fault) f := by
  unfold Leaves at *
  rw [run_bind, hx]

/-- An action with the value of a computation. -/
lemma lift_bind {result : Except Fault β} (hk : Leaves (k a) ch result f) :
    Leaves (liftExcept (.ok a : Except Fault α) >>= k) ch result f := by
  have hsame : ch.after (.writes []) = ch := ch.after_writes_nil
  exact (lift (.ok a) ch).bind (hsame.symm ▸ hk) f.writes_nil_append

/-- **An action that is followed by a computation with its value** leaves its own footprint. -/
theorem bind_computation {result : Except Fault α} {finish : α → Except Fault β}
    (hx : Leaves x ch result f) (hk : ∀ a ch, Leaves (k a) ch (finish a) (.writes [])) :
    Leaves (x >>= k) ch (result >>= finish) f := by
  cases result with
  | error fault => exact hx.bind_of_error
  | ok a => exact hx.bind (hk a _) f.append_writes_nil

/-- Writing an entry of the requests, unless it is refused. -/
lemma record (level : Level) (message : String) (details : Members) (ch : Channel) :
    Leaves (modify (·.record level message details)) ch (.ok ())
      (.writes (ch.journal.admitted [Component.requests.entry level message details])) := by
  show (Except.ok (), ch.record level message details) = _
  rw [Channel.record, Journal.record_eq_admitted, Footprint.writes, ch.after_of_unsent]
  rfl

/-- Writing an entry of the requests with details that can be logged. -/
lemma record_of_recordable {details : Members} (h : Log.Recordable details) (level : Level)
    (message : String) (ch : Channel) :
    Leaves (modify (·.record level message details)) ch (.ok ())
      (.writes [Component.requests.entry level message details]) := by
  have hrecord := record level message details ch
  rw [Journal.admitted, List.filter_singleton, ch.journal.refusal?_of_recordable h] at hrecord
  exact hrecord

/-- An entry about a request that is not refused is written. -/
lemma trace_of_admitted {r : Request} {level : Level} {message : String} {more : Members}
    (h : ch.journal.refusal? (r.entry level message more) = none) :
    Leaves (r.trace level message more) ch (.ok ()) (.writes [r.entry level message more]) := by
  have hown : (r.entry level message more).GoesTo .requests := Component.goesTo_entry ..
  show ((ch.journal.tryWrite (r.entry level message more)).1.mapError Fault.log,
    { ch with journal := (ch.journal.tryWrite (r.entry level message more)).2 }) = _
  rw [ch.journal.tryWrite_eq hown, h]
  exact congrArg (Prod.mk _) (ch.after_of_unsent 0 [_]).symm

/-- An entry about a request that is refused is a fault. -/
lemma trace_of_refused {r : Request} {level : Level} {message : String} {more : Members}
    {f : Log.Fault} (h : ch.journal.refusal? (r.entry level message more) = some f) :
    Leaves (r.trace level message more) ch (.error (.log f)) (.writes []) := by
  have hown : (r.entry level message more).GoesTo .requests := Component.goesTo_entry ..
  show ((ch.journal.tryWrite (r.entry level message more)).1.mapError Fault.log,
    { ch with journal := (ch.journal.tryWrite (r.entry level message more)).2 }) = _
  rw [ch.journal.tryWrite_eq hown, h]
  exact congrArg (Prod.mk _) ch.after_writes_nil.symm

/-- Sending a request. -/
lemma send (r : Request) (ch : Channel) :
    Leaves (modifyGet (·.send r)) ch (.ok ch.next) { sent := [r] } := by
  show (Except.ok ch.next, (ch.send r).2) = _
  rw [Channel.after, List.length_singleton, List.drop_one]
  rfl

/-- **A tracked action** leaves its own footprint between the two entries around it.

**Proof sketch.** By `Log.track_eq`. The action reads no timer, and the order of entries and
readings does not matter, so that the timer is read for the second time where the first reading
left it. -/
theorem tracked {name : Text} {context : Members} {result : Except Fault α}
    (h : Log.Trackable context .requests)
    (hx : Leaves x (ch.after ⟨[], 1, [Log.startedEntry (.text name) context]⟩) result f)
    (hf : f.readings = 0) :
    Leaves (ExceptT.mk (Log.track Fault.log (.text name) context x.run)) ch result
      (⟨[], 1, [Log.startedEntry (.text name) context]⟩ ++ f ++
        ⟨[], 1, [Log.completedEntry (.text name) context ch.reading ch.laterReading]⟩) := by
  obtain ⟨sent, readings, entries⟩ := f
  obtain rfl : readings = 0 := hf
  let operation : Value := .text name
  let before : Footprint := ⟨[], 1, [Log.startedEntry operation context]⟩
  have hbefore : Log.Journaled.withJournal ch ((Log.Journaled.journal ch).afterTimer.enter
      Component.requests.file (Log.startedEntry operation context)) = ch.after before :=
    (ch.after_of_unsent 1 [Log.startedEntry operation context]).symm
  have hrun : x.run (ch.after before) = (result, ch.after (before ++ ⟨sent, 0, entries⟩)) := by
    rw [← ch.after_append]
    exact hx
  -- the timer was read once before, whatever was written in between
  have hreading : (ch.after (before ++ ⟨sent, 0, entries⟩)).journal.readTimer.1 =
      ch.laterReading := by
    rw [Channel.after, Journal.readTimer_enterAll]
    rfl
  have hcompleted (e : Entry) :
      ch.after (before ++ ⟨sent, 0, entries⟩ ++ ⟨[], 1, [e]⟩) =
        Log.Journaled.withJournal (ch.after (before ++ ⟨sent, 0, entries⟩))
          ((ch.after (before ++ ⟨sent, 0, entries⟩)).journal.afterTimer.enter .requests e) := by
    rw [← ch.after_append, Channel.after_of_unsent]
    rfl
  show Log.track Fault.log operation context x.run ch = _
  rw [Log.track_eq h]
  dsimp only
  rw [hbefore, hrun, ← hreading]
  exact congrArg (Prod.mk result) (hcompleted _).symm

end Leaves

end TableClient.Client
