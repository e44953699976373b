import TableClient.Log.Journal

/-!
# Sessions of a log

A list of steps on a journal: entries, changes of the correlation id, and tracked blocks of further
steps. A block may fail at its end; the failure leaves the block and ends the step, and the steps
after it go on.

## Main definitions

* `TableClient.Log.Step` — the steps.
* `TableClient.Log.Reply` — what a step answers.
* `TableClient.Log.runStep`, `TableClient.Log.runSteps` — one step, and a list of steps.
-/

set_option relaxedAutoImplicit false
set_option autoImplicit false

namespace TableClient.Log

/-- A step on a journal. Steps that were not understood stand beside the others, with a reason of
type `ρ`, so that a session can be run whatever it was asked for. -/
inductive Step (ρ : Type) where
  | entry (level : Level) (message : Value) (details : Members)
  /-- Sets the correlation id, or a fresh one when none is given. -/
  | setCorrelation (id : Option CorrelationId)
  | clearCorrelation
  | close
  | reject (reason : ρ)
  /-- A tracked block of steps, which fails at its end when the flag is set. -/
  | track (operation : Value) (context : Members) (block : List (Step ρ)) (fails : Bool)

/-- Why a step fails. -/
inductive StepFault (ρ : Type) where
  | refused (f : Fault)
  /-- A log without files is closed. -/
  | nothingToClose
  /-- The step was not understood. -/
  | rejected (reason : ρ)
  /-- A block failed at its end. -/
  | interrupted
deriving DecidableEq

/-- What a step answers. -/
inductive Reply (ρ : Type) where
  | done
  | value (v : Value)
  | replies (rs : List (Except (StepFault ρ) (Reply ρ)))

variable {ρ : Type}

/-- Closes the files of a journal. They are opened again when they are written to. -/
def closeFiles (j : Journal) : Except (StepFault ρ) (Reply ρ) :=
  match j.routing with
  | .files => .ok .done
  | .stream => .error .nothingToClose

mutual

/-- One step: its answer or the reason why it failed, and the journal afterwards. -/
def runStep (j : Journal) : Step ρ → Except (StepFault ρ) (Reply ρ) × Journal
  | .entry level message details =>
    match j.tryWrite ⟨level, message, details⟩ with
    | (.ok (), j) => (.ok .done, j)
    | (.error f, j) => (.error (.refused f), j)
  | .setCorrelation id =>
    let id := id.getD freshCorrelation
    (.ok (.value id.value), j.setCorrelation id)
  | .clearCorrelation => (.ok .done, j.clearCorrelation)
  | .close => (closeFiles j, j)
  | .reject reason => (.error (.rejected reason), j)
  | .track operation context block fails =>
    track .refused operation context (fun j =>
      let (replies, j) := runSteps j block
      (if fails then .error .interrupted else .ok (.replies replies), j)) j

/-- Steps one after the other; a failed step does not end the run. -/
def runSteps (j : Journal) : List (Step ρ) → List (Except (StepFault ρ) (Reply ρ)) × Journal
  | [] => ([], j)
  | s :: rest =>
    let (reply, j) := runStep j s
    let (replies, j) := runSteps j rest
    (reply :: replies, j)

end

end TableClient.Log
