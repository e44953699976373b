import TableClient.Proofs.Client.Addresses
import TableClient.Proofs.Computation
import TableClient.Proofs.Query.TokenForms

set_option relaxedAutoImplicit false
set_option autoImplicit false

/-!
# Drafts as queries

Records are searched for with a query that is either an encoded text or a draft, which is then built
by the search. A text that does not count as set asks for everything, while a draft that has nothing
to build is refused; but the tokens of a draft are never empty, so that a draft that has tokens
never builds a text that asks for everything. Handing a draft in is therefore the same as building
it first and handing in its text.

## Main definitions

* `TableClient.Query.Draft.handed` — a draft as the query of a search.
* `TableClient.Client.Search` — the operations that take a query, but for their query.

## Main results

* `TableClient.Query.Draft.encoded_isTruthy` — a draft that has tokens builds a text that counts as
  set.
* `TableClient.Client.Search.run_handed` — searching with a draft is building it and searching with
  its text.
* `TableClient.Client.Search.draft_interchangeable` — what a search sends and results in with a
  draft, and with its text.
-/

namespace TableClient.Query

/-! ### What a draft builds -/

/-- The text of a token is not empty: every join marker and every operator has a tag. -/
lemma Token.text_isEmpty (t : Token) : t.text.isEmpty = false := by
  have htag (o : Operator) : Text.points o.tag ≠ [] := by cases o <;> decide
  cases t with
  | join marker => cases marker <;> rfl
  | order descending name =>
    exact List.isEmpty_eq_false_iff.2 fun h => htag _ (List.append_eq_nil_iff.1 h).1
  | condition left operator operand =>
    exact List.isEmpty_eq_false_iff.2 fun h =>
      htag _ (List.append_eq_nil_iff.1 (List.append_eq_nil_iff.1 h).1).2

namespace Draft

/-- A draft as the query of a search. -/
def handed (d : Draft) : Value := .query d.builder.tokens d.builder.field

variable {d : Draft} {cs : List Call}

/-- Building a draft that has tokens is recorded. -/
lemma recorded_step_build (h : d.builder.tokens ≠ []) (j : Log.Journal) :
    Recorded.step ⟨d, j⟩ .build =
      (.ok (.encoded d.builder.encoded), ⟨d, d.builder.recordBuilt j⟩) := by
  have hbuild : d.builder.build = .ok d.builder.encoded := if_neg (by simpa using h)
  rw [Recorded.step, step_build, hbuild]
  rfl

/-- **A draft that has tokens builds a text that counts as set**, as none of its tokens is empty. -/
theorem encoded_isTruthy (h : (empty.run cs).2.builder.tokens ≠ []) :
    (Value.text (empty.run cs).2.builder.encoded).isTruthy = true := by
  have htokens : (empty.run cs).2.builder.tokens = (empty.history cs).map Token.text :=
    empty.tokens_run cs
  rw [Builder.encoded, htokens]
  rw [htokens] at h
  cases hhistory : empty.history cs with
  | nil => exact absurd (congrArg _ hhistory) h
  | cons t ts =>
    have hfirst : t.text.points ≠ [] := List.isEmpty_eq_false_iff.1 t.text_isEmpty
    simp [Value.isTruthy, Text.isEmpty, Text.flatten, hfirst]

end Draft

end TableClient.Query

namespace TableClient.Client

open Query (Draft Recorded)

/-! ### Searches -/

/-- An operation that takes a query, but for its query. The query of the filter does not count. -/
inductive Search where
  | list (table : Value) (filter : Filter)
  | count (table : Value)

namespace Search

/-- The operation of a search with its query. -/
def asking : Search → Value → Operation
  | list table filter, query => .list table { filter with query := query }
  | count table, query => .count table query

variable (s : Search) {query query' : Value}

/-- The query of a search is the one that it asks. -/
lemma query_asking (query : Value) : (s.asking query).query = query := by
  cases s <;> rfl

/-- The parameters of a search depend on what becomes of its query only. -/
lemma params_congr (h : queryMembers query = queryMembers query') :
    (s.asking query).params = (s.asking query').params := by
  cases s with
  | list table filter => simp only [asking, Operation.params, Filter.members, h]
  | count table => simp only [asking, Operation.params, countMembers, Filter.members, h]

/-- The call of a search does not depend on its query but for the parameters. -/
lemma call_asking (query query' : Value) :
    (s.asking query).call = (s.asking query').call := by
  cases s <;> rfl

/-- What a search makes of the answer does not depend on its query. -/
lemma finish_asking (query query' : Value) :
    (s.asking query).finish = (s.asking query').finish := by
  cases s <;> rfl

variable (c : Connection) (ch : Channel)

/-- A search results in the same for queries that become the same parameters, and for journals that
are alike. -/
lemma result_congr {j j' : Log.Journal} (h : queryMembers query = queryMembers query')
    (halike : j.Alike j') : c.result j' (s.asking query) = c.result j (s.asking query') := by
  funext outcome
  rw [Connection.result, Connection.result, s.params_congr h, s.call_asking query query',
    s.finish_asking query query', c.tableResult_congr halike]

/-- A search sends the same request for queries that become the same parameters. -/
lemma plan_asking_congr (j : Log.Journal) (h : queryMembers query = queryMembers query') :
    c.plan j (s.asking query) = c.plan j (s.asking query') := by
  rw [Connection.plan, Connection.plan, s.params_congr h, s.call_asking query query']

/-- The members of the parameters of a search hold its query. -/
lemma get?_params {text : Text} {params : Value}
    (h : queryMembers query = .ok [(Parameter.query.name, .text text)])
    (hparams : (s.asking query).params = .ok params) :
    ∃ members : Members, params = .ofMembers members ∧
      members.get? Parameter.query.name = some (.text text) := by
  cases s with
  | list table filter =>
    simp only [asking, Operation.params, Filter.members, h, bind_eq_ok_iff] at hparams
    obtain ⟨_, ⟨_, hquery, _, -, _, -, _, -, hmembers⟩, hparams⟩ := hparams
    cases hquery
    cases hmembers
    cases hparams
    exact ⟨_, rfl, rfl⟩
  | count table =>
    simp only [asking, Operation.params, countMembers, Filter.members, h] at hparams
    cases hparams
    exact ⟨_, rfl, rfl⟩

/-! ### Drafts and their texts -/

variable {d : Draft} {cs : List Query.Call}

/-- A draft that has tokens becomes the same parameter as its text, provided that its text counts as
set. -/
lemma queryMembers_handed (h : d.builder.tokens ≠ [])
    (htext : (Value.text d.builder.encoded).isTruthy = true) :
    queryMembers d.handed = .ok [(Parameter.query.name, .text d.builder.encoded)] ∧
      queryMembers (.text d.builder.encoded) =
        .ok [(Parameter.query.name, .text d.builder.encoded)] := by
  constructor
  · rw [Draft.handed, queryMembers, if_neg (by simpa using h)]
  · exact congrArg Except.ok (if_pos htext)

/-- The journal with the entry of a draft that was built. -/
lemma after_builtEntries (h : d.builder.tokens ≠ []) :
    ch.after (.writes (ch.journal.admitted (builtEntries d.handed))) =
      { ch with journal := d.builder.recordBuilt ch.journal } := by
  rw [Footprint.writes, ch.after_of_unsent, Draft.handed]
  exact congrArg (fun j => { ch with journal := j })
    (recordBuilt_eq h d.builder.field ch.journal).symm

/-- **Searching with a draft is building it first and searching with its text then**, on any
channel.

**Proof sketch.** A search results in the same for both queries, as they become the same parameter,
and its request is the same. What it leaves is, for the draft, the entry of the query and what it
leaves for the text; and the entry is written by building the draft as well. -/
theorem run_handed (h : d.builder.tokens ≠ [])
    (htext : (Value.text d.builder.encoded).isTruthy = true) :
    (c.perform (s.asking d.handed)).run ch =
      (c.perform (s.asking (.text d.builder.encoded))).run
        { ch with journal := d.builder.recordBuilt ch.journal } := by
  obtain ⟨hhanded, hencoded⟩ := queryMembers_handed h htext
  have hsame : queryMembers d.handed = queryMembers (.text d.builder.encoded) :=
    hhanded.trans hencoded.symm
  let built := ch.journal.admitted (builtEntries d.handed)
  have hfootprint : c.footprint ch (s.asking d.handed) =
      .writes built ++
        c.footprint (ch.after (.writes built)) (s.asking (.text d.builder.encoded)) := by
    have hnone : builtEntries (.text d.builder.encoded) = [] := rfl
    rw [Connection.footprint, Connection.footprint, query_asking, query_asking, hnone,
      Log.Journal.admitted_nil, Footprint.writes_nil_append, s.params_congr hsame,
      s.call_asking d.handed (.text d.builder.encoded)]
    simp only [Connection.tableFootprint_after_writes]
    rfl
  have hresult : c.result (ch.after (.writes built)).journal (s.asking (.text d.builder.encoded)) =
      c.result ch.journal (s.asking d.handed) :=
    s.result_congr c hsame.symm (ch.alike_after _)
  rw [← after_builtEntries ch h, c.run_perform, c.run_perform, hfootprint, ← ch.after_append,
    hresult, ch.next_after_of_unsent _ rfl]

/-- A search with a draft that has no token is refused before anything is done. -/
lemma run_handed_of_empty (h : d.builder.tokens = []) :
    (c.perform (s.asking d.handed)).run ch = (.error (.query .emptyQuery), ch) := by
  have hmembers : queryMembers d.handed = .error (.query .emptyQuery) := by
    rw [Draft.handed, queryMembers, h]
    rfl
  have hparams : (s.asking d.handed).params = .error (.query .emptyQuery) := by
    cases s with
    | list table filter =>
      rw [asking, Operation.params, Filter.members, hmembers]
      rfl
    | count table =>
      rw [asking, Operation.params, countMembers, Filter.members, hmembers]
      rfl
  have hentries : builtEntries d.handed = [] := by
    rw [Draft.handed, builtEntries, h]
    rfl
  rw [c.run_perform, Connection.result, Connection.footprint, query_asking, hentries, hparams]
  dsimp only
  rw [Log.Journal.admitted_nil, Footprint.writes_nil_append, ch.after_writes_nil]
  rfl

/-- **A draft and its text are interchangeable as a query.** Take the draft of any run.

If it has no token, building it is refused, and so is every search with it, which leaves the channel
as it is.

If it has tokens, building it gives the tokens without separators and leaves the draft as it is.
Handing it in is building it and handing in the text, on any channel; and on channels that the same
outcomes come through and whose journals refuse the same, whenever the draft is built, both searches
result in the same and send the same requests, which ask for that text. One request is sent when the
table is named by characters and the parameters are built and can be written.

**Proof sketch.** The text counts as set, because no token is empty (`Draft.encoded_isTruthy`). So
both queries become the same parameter, and everything else about a search is the same. -/
theorem draft_interchangeable (cs : List Query.Call) :
    let d := (Draft.empty.run cs).2
    let text := Text.flatten d.builder.tokens
    (d.builder.tokens = [] →
      d.step .build = (.error .emptyQuery, d) ∧
        ∀ ch, (c.perform (s.asking d.handed)).run ch = (.error (.query .emptyQuery), ch)) ∧
    (d.builder.tokens ≠ [] →
      (∀ ch : Channel, ∃ j, Recorded.step ⟨d, ch.journal⟩ .build = (.ok (.encoded text), ⟨d, j⟩) ∧
        (c.perform (s.asking d.handed)).run ch =
          (c.perform (s.asking (.text text))).run { ch with journal := j }) ∧
      ∀ ch ch' : Channel, ch.coming = ch'.coming → ch.journal.Alike ch'.journal →
        ((c.perform (s.asking d.handed)).run ch).1 =
          ((c.perform (s.asking (.text text))).run ch').1 ∧
        c.sentBy ch (s.asking d.handed) = c.sentBy ch' (s.asking (.text text)) ∧
        (∀ r ∈ c.sentBy ch (s.asking d.handed), ∃ members : Members,
          r.params = .ofMembers members ∧
            members.get? Parameter.query.name = some (.text text)) ∧
        ∀ names params, (s.asking d.handed).NamedBy names →
          (s.asking d.handed).Sendable ch.journal params →
          ∃ r, c.sentBy ch (s.asking d.handed) = [r] ∧ r.url = c.address names ∧
            r.params = params) := by
  intro d text
  constructor
  · intro h
    have hbuild : d.builder.build = .error .emptyQuery := if_pos (by rw [h]; rfl)
    exact ⟨by rw [d.step_build, hbuild]; rfl, fun ch => s.run_handed_of_empty c ch h⟩
  · intro h
    have htext : (Value.text d.builder.encoded).isTruthy = true := Draft.encoded_isTruthy h
    obtain ⟨hhanded, hencoded⟩ := queryMembers_handed h htext
    have hsame : queryMembers d.handed = queryMembers (.text d.builder.encoded) :=
      hhanded.trans hencoded.symm
    refine ⟨fun ch => ⟨_, Draft.recorded_step_build h _, s.run_handed c ch h htext⟩, ?_⟩
    intro ch ch' hcoming halike
    have hnext : ch.next = ch'.next := by rw [Channel.next, hcoming, Channel.next]
    refine ⟨?_, ?_, fun r hr => ?_, fun names params hnamed hsendable => ?_⟩
    · rw [c.run_perform, c.run_perform, ← s.result_congr c hsame.symm halike, hnext]
      rfl
    · rw [c.sentBy_eq, c.sentBy_eq, c.plan_congr _ _ halike, s.plan_asking_congr c _ hsame]
      rfl
    · obtain ⟨hparams, -, -⟩ := Connection.params_of_plan (c.mem_sentBy_iff.1 hr)
      exact s.get?_params hhanded hparams
    · exact ⟨_, Connection.sentBy_of_sendable hnamed hsendable, rfl, rfl⟩

/-- A draft of one ordering is handed to a count: the one request that is sent asks for the text of
the ordering. -/
theorem draft_interchangeable_order :
    let d := (Draft.empty.run [.field (.text "number"), .order true]).2
    let s : Search := .count (.text "incident")
    let ch : Channel := .fresh [] .plain
    d.builder.tokens ≠ [] ∧ ∃ r, Connection.plain.sentBy ch (s.asking d.handed) = [r] ∧
      Connection.plain.sentBy ch (s.asking (.text "ORDERBYDESCnumber")) = [r] ∧
        ∃ members : Members, r.params = .ofMembers members ∧
          members.get? Parameter.query.name = some (.text "ORDERBYDESCnumber") := by
  intro d s ch
  have htokens : d.builder.tokens = ["ORDERBYDESCnumber"] := rfl
  have hne : d.builder.tokens ≠ [] := by
    rw [htokens]
    exact List.cons_ne_nil _ _
  obtain ⟨-, hsent, hquery, hone⟩ :=
    ((draft_interchangeable s .plain [.field (.text "number"), .order true]).2 hne).2 ch ch rfl
      (.refl _)
  have hparams : (s.asking d.handed).params =
      .ok (.ofMembers [(Parameter.fields.name, .text countField),
        (Parameter.query.name, .text "ORDERBYDESCnumber")]) := rfl
  obtain ⟨r, hr, -, -⟩ := hone ["incident".toList] _ rfl
    ⟨hparams, fun _ => Operation.fault?_texts (List.forall_mem_cons.2
      ⟨⟨_, rfl⟩, List.forall_mem_singleton.2 ⟨_, rfl⟩⟩)⟩
  exact ⟨hne, r, hr, hsent.symm.trans hr, hquery r (hr ▸ List.mem_singleton_self r)⟩

end Search

end TableClient.Client
