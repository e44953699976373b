import TableClient.Log.Journal
import TableClient.Query.Draft

/-!
# Queries and the journal

Building a query is the one step that is logged: the entry gives the encoded query and the number
of its tokens. No other step leaves a trace in the journal, and neither does a build that is
refused.

## Main definitions

* `TableClient.Query.Builder.buildRecorded` — building a query with its entry.
* `TableClient.Query.Recorded.step` — one step on a draft with its entry, if it has one.
-/

set_option relaxedAutoImplicit false
set_option autoImplicit false

namespace TableClient.Query

open Log (Journal)

/-- The journal with the entry of a query that was built. -/
def Builder.recordBuilt (b : Builder) (j : Journal) : Journal :=
  j.record .query .debug "glide_query_built"
    [("query", .text b.encoded), ("token_count", .int b.tokens.length)]

/-- The encoded query of a builder that has tokens, and the journal with its entry. -/
def Builder.buildRecorded (b : Builder) (j : Journal) : Except Fault Text × Journal :=
  match b.build with
  | .ok text => (.ok text, b.recordBuilt j)
  | .error f => (.error f, j)

/-- A draft together with the journal that its steps are recorded in. -/
structure Recorded where
  draft : Draft
  journal : Journal

/-- One step on a draft. A build that succeeds is recorded. -/
def Recorded.step (r : Recorded) (c : Call) : Except Fault Reply × Recorded :=
  match r.draft.step c with
  | (.ok (.encoded text), d) => (.ok (.encoded text), ⟨d, d.builder.recordBuilt r.journal⟩)
  | (reply, d) => (reply, ⟨d, r.journal⟩)

end TableClient.Query
