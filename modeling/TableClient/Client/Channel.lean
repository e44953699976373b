import TableClient.Client.Response
import TableClient.Log.Journal

/-!
# The channel

The channel carries requests to the instance. What will happen to them is given in advance, one
outcome a request, and a response without records after the last one. The channel keeps what was
sent through it, how often it was closed, and the journal of the client that uses it. A closed
channel opens again by itself.

## Main definitions

* `TableClient.Client.Request` — requests as they are sent.
* `TableClient.Client.Channel` — the state of a channel.
* `TableClient.Client.Channel.send`, `TableClient.Client.Channel.close` — its use.
-/

set_option relaxedAutoImplicit false
set_option autoImplicit false

namespace TableClient.Client

/-- A request as it is sent. -/
structure Request where
  method : Value
  url : Text
  params : Value
  body : Value
  timeout : Value

/-- The headers that every request is sent with. -/
def requestHeaders : Members :=
  [("Accept", .text "application/json"), ("Content-Type", .text "application/json")]

/-- A channel: the outcomes to come, the requests sent so far, how often it was closed, and the
journal. -/
structure Channel where
  coming : List Outcome
  sent : List Request
  closings : Nat
  journal : Log.Journal

instance : Log.Journaled Channel := ⟨Channel.journal, fun c j => { c with journal := j }⟩

namespace Channel

/-- The channel that was not used yet. -/
def fresh (coming : List Outcome) (journal : Log.Journal) : Channel := ⟨coming, [], 0, journal⟩

/-- Sends a request. -/
def send (c : Channel) (r : Request) : Outcome × Channel :=
  let outcome := c.coming.head?.getD (.response .noRecords)
  (outcome, { c with coming := c.coming.tail, sent := c.sent ++ [r] })

/-- Closes the channel. -/
def close (c : Channel) : Channel := { c with closings := c.closings + 1 }

/-- The channel with an entry about a table added to the journal. -/
def record (c : Channel) (level : Log.Level) (message : String) (details : Members) : Channel :=
  { c with journal := c.journal.record .requests level message details }

end Channel

/-- Runs a block and closes the channel after it, whatever comes of the block. -/
def closing {ε α : Type} (block : Channel → Except ε α × Channel) (c : Channel) :
    Except ε α × Channel :=
  let (result, c) := block c
  (result, c.close)

end TableClient.Client
