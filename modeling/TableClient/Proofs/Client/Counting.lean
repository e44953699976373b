import TableClient.Proofs.Client.Acceptance
import TableClient.Proofs.Computation
import TableClient.Proofs.Text.Reading

set_option relaxedAutoImplicit false
set_option autoImplicit false

/-!
# Counting and listing

Records are counted by listing one field of them and counting what is listed. Counting puts its
parameters together in a way of its own, though: the parameters that a listing without fields would
have are set on top of the parameter that asks for the one field. Nothing gets lost by that, so that
a count sends the request of the listing, and results in what is made of the result of the listing.

## Main definitions

* `TableClient.Client.Operation.counted` — the listing whose records a count counts.
* `TableClient.Client.Request.Equivalent` — requests that differ in the order of their parameters
  only.
* `TableClient.Client.IsPlainQuery` — the queries that become a text or nothing.

## Main results

* `TableClient.Client.params_count_matches` — the parameters of a count and of its listing.
* `TableClient.Client.Connection.plan_count`, `TableClient.Client.Connection.result_count` — the
  request of a count and what it results in, from those of its listing.
* `TableClient.Client.Connection.count_projects_list` — a count against its listing.
-/

namespace TableClient.Client

/-- The listing of the one field of the records that a count counts. -/
def Operation.counted (table query : Value) : Operation :=
  .list table { query := query, fields := .list [.text countField] }

/-- Requests that differ at most in the order of their parameters. -/
structure Request.Equivalent (r r' : Request) : Prop where
  method : r.method = r'.method
  url : r.url = r'.url
  body : r.body = r'.body
  timeout : r.timeout = r'.timeout
  params : ∃ members members' : Members, r.params = .ofMembers members ∧
    r'.params = .ofMembers members' ∧ members.keys.Nodup ∧ members.Perm members'

/-- A query that becomes a text or nothing: none at all, a text, or a draft that has tokens. -/
inductive IsPlainQuery : Value → Prop where
  | absent : IsPlainQuery .null
  | text (t : Text) : IsPlainQuery (.text t)
  | draft {tokens : List Text} (field : Value) : tokens ≠ [] → IsPlainQuery (.query tokens field)

/-! ### Parameters -/

/-- Parameters that differ at most in their order, and cannot be written for the same reason if they
cannot be written. -/
structure SameParams (v v' : Value) : Prop where
  members : ∃ members members' : Members, v = .ofMembers members ∧ v' = .ofMembers members' ∧
    members.keys.Nodup ∧ members.Perm members'
  fault : Json.fault? v (maxNesting - 1) = Json.fault? v' (maxNesting - 1)

/-- The parameter of the one field. -/
def countedField : Text × Value := (Parameter.fields.name, .text countField)

/-- A query becomes one parameter at most. -/
lemma queryMembers_cases (query : Value) :
    (∃ f, queryMembers query = .error f) ∨ queryMembers query = .ok [] ∨
      ∃ v, queryMembers query = .ok [(Parameter.query.name, v)] := by
  cases query with
  | query tokens field =>
    rw [queryMembers]
    split
    · exact .inl ⟨_, rfl⟩
    · exact .inr (.inr ⟨_, rfl⟩)
  | _ =>
    show _ ∨ Except.ok (ite _ _ _) = _ ∨ ∃ v, Except.ok (ite _ _ _) = _
    split
    · exact .inr (.inr ⟨_, rfl⟩)
    · exact .inr (.inl rfl)

/-- The field of a listing becomes the parameter of a count. -/
lemma fieldsParam_countField :
    fieldsParam (.list [.text countField]) = .ok [countedField] := by
  have hjoined : Text.joined "," [(countField : Text)] = countField := by
    simp [Text.joined]
  show Except.ok [((Parameter.fields.name : Text), Value.text (Text.joined "," [↑countField]))] = _
  rw [hjoined]
  rfl

/-- The parameters of a count, from its query. -/
lemma params_count (table query : Value) :
    (Operation.count table query).params =
      (queryMembers query).map fun q => .ofMembers (Keyed.insertAll [countedField] q) := by
  rw [Operation.params, countMembers, Filter.members]
  cases queryMembers query with
  | error f => rfl
  | ok q =>
    show Except.ok (Value.ofMembers (Keyed.insertAll [countedField]
      (q ++ [] ++ [] ++ [] ++ []))) = _
    simp only [List.append_nil]
    rfl

/-- The parameters of the listing that is counted, from its query. -/
lemma params_counted (table query : Value) :
    (Operation.counted table query).params =
      (queryMembers query).map fun q => .ofMembers (q ++ [countedField]) := by
  rw [Operation.counted, Operation.params, Filter.members, fieldsParam_countField]
  cases queryMembers query with
  | error f => rfl
  | ok q =>
    show Except.ok (Value.ofMembers (q ++ [countedField] ++ [] ++ [] ++ [])) = _
    simp only [List.append_nil]
    rfl

/-- **A count and its listing have the same parameters**, but for their order, or fail to build
their query alike. -/
theorem params_count_matches (table query : Value) :
    Matches SameParams (Operation.count table query).params
      (Operation.counted table query).params := by
  rw [params_count, params_counted]
  rcases queryMembers_cases query with ⟨f, h⟩ | h | ⟨v, h⟩
  · rw [h]
    exact .error f
  · rw [h]
    refine .ok ⟨⟨[countedField], [countedField], rfl, rfl, ?_, .refl _⟩, rfl⟩
    exact List.pairwise_singleton _ _
  · rw [h]
    refine .ok ⟨⟨[countedField, (Parameter.query.name, v)],
      [(Parameter.query.name, v), countedField], rfl, rfl, ?_, .swap ..⟩, ?_⟩
    · show [(Parameter.fields.name : Text), Parameter.query.name].Nodup
      decide
    -- the one field is a text, so that only the query can be at fault
    · have hfield : Json.fault? countedField.2 (maxNesting - 2) = none := Json.fault?_text _ _
      have hfault (members : Members) : Json.fault? (.ofMembers members) (maxNesting - 1) =
          members.findSome? fun member => Json.fault? member.2 (maxNesting - 2) :=
        Json.fault?_ofMembers members (maxNesting - 2)
      show Json.fault? (.ofMembers [countedField, (Parameter.query.name, v)]) _ =
        Json.fault? (.ofMembers [(Parameter.query.name, v), countedField]) _
      rw [hfault, hfault]
      simp only [List.findSome?_cons, List.findSome?_nil, hfield]

/-- The parameters of a count with a query that becomes a text or nothing are texts. -/
lemma IsPlainQuery.params_count {query : Value} (h : IsPlainQuery query) (table : Value) :
    ∃ members : Members, (Operation.count table query).params = .ok (.ofMembers members) ∧
      ∀ member ∈ members, ∃ t, member.2 = .text t := by
  have hparams := Client.params_count table query
  have hfield : ∀ member ∈ [countedField], ∃ t, member.2 = .text t :=
    List.forall_mem_singleton.2 ⟨_, rfl⟩
  have hboth (t : Text) :
      ∀ member ∈ Keyed.insertAll [countedField] [(Parameter.query.name, .text t)],
        ∃ t, member.2 = .text t :=
    List.forall_mem_cons.2 ⟨⟨_, rfl⟩, List.forall_mem_singleton.2 ⟨_, rfl⟩⟩
  cases h with
  | absent => exact ⟨_, hparams, hfield⟩
  | text t =>
    rw [queryMembers] at hparams
    · split at hparams
      · exact ⟨_, hparams, hboth t⟩
      · exact ⟨_, hparams, hfield⟩
    · exact nofun
  | draft field htokens =>
    rw [queryMembers, if_neg (by simpa using htokens)] at hparams
    exact ⟨_, hparams, hboth _⟩

/-- A count with a query that becomes a text or nothing can be sent. -/
lemma IsPlainQuery.sendable {query : Value} (h : IsPlainQuery query) (table : Value)
    (j : Log.Journal) : ∃ params, (Operation.count table query).Sendable j params := by
  obtain ⟨members, hparams, htexts⟩ := h.params_count table
  exact ⟨_, hparams, fun _ => Operation.fault?_texts htexts⟩

namespace Connection

variable (c : Connection) (ch : Channel) (table query : Value)

/-! ### Results and requests -/

/-- **A count and its listing have the same request**, but for the order of the parameters, or fail
alike. -/
theorem plan_count (j : Log.Journal) :
    Matches Request.Equivalent (c.plan j (.count table query))
      (c.plan j (.counted table query)) := by
  unfold plan
  refine (params_count_matches table query).bind fun params params' hparams => ?_
  let k := (Operation.count table query).call params
  let k' := (Operation.counted table query).call params'
  have hrequest : Matches Request.Equivalent (c.requestOf j k) (c.requestOf j k') := by
    have hurl : c.url k = c.url k' := rfl
    unfold requestOf
    rw [hurl]
    cases c.url k' with
    | error f => exact .error _
    | ok url =>
      dsimp only
      rw [Request.refusal?_opening (Json.fault?_text _ _),
        Request.refusal?_opening (Json.fault?_text _ _)]
      have hopening : Json.fault? (c.request k url).params (maxNesting - 1) =
          Json.fault? (c.request k' url).params (maxNesting - 1) := hparams.fault
      rw [hopening]
      split
      · exact .error _
      · exact .ok ⟨rfl, rfl, rfl, rfl, hparams.members⟩
  have htable : k.tableName = k'.tableName := rfl
  show Matches _ (k.tableName >>= fun _ => c.requestOf j k) (k'.tableName >>= fun _ =>
    c.requestOf j k')
  rw [htable]
  exact (Matches.refl (R := Eq) (fun _ => rfl) _).bind fun _ _ _ => hrequest

/-- Equivalent requests are settled alike. -/
lemma settled_count (j : Log.Journal) {r r' : Request} (h : r.Equivalent r') (outcome : Outcome) :
    c.settled j ((Operation.count table query).call r.params) r outcome =
      c.settled j ((Operation.counted table query).call r'.params) r' outcome := by
  have hdetails : r.details = r'.details := by
    rw [Request.details, h.method, h.url, Request.details]
  have hentry : r.entry = r'.entry := by
    funext level message more
    rw [Request.entry, hdetails, Request.entry]
  have hclosing : r.closing? outcome = r'.closing? outcome := by
    unfold Request.closing? Request.rejected Request.accepted Request.failed
    rw [hentry]
  rw [settled, hclosing]
  rfl

/-- **A count results in what is made of the result of its listing**, whatever comes of the
request. -/
theorem result_count (j : Log.Journal) (outcome : Outcome) :
    c.result j (.count table query) outcome =
      c.result j (.counted table query) outcome >>= recordCount := by
  rw [result_eq, result_eq]
  rcases (c.plan_count table query j).cases with ⟨f, h, h'⟩ | ⟨r, r', h, h', hr⟩
  · rw [h, h']
    rfl
  · rw [h, h']
    show c.settled j ((Operation.count table query).call r.params) r outcome >>= recordCount =
      (c.settled j ((Operation.counted table query).call r'.params) r' outcome >>= Except.ok) >>=
        recordCount
    rw [c.settled_count table query j hr]
    cases c.settled j ((Operation.counted table query).call r'.params) r' outcome <;> rfl

/-- A count sends the request of its listing. -/
lemma sentBy_count :
    List.Forall₂ Request.Equivalent (c.sentBy ch (.count table query))
      (c.sentBy ch (.counted table query)) := by
  rw [sentBy_eq, sentBy_eq]
  rcases (c.plan_count table query ch.journal).cases with ⟨f, h, h'⟩ | ⟨r, r', h, h', hr⟩
  · rw [h, h']
    exact .nil
  · rw [h, h']
    exact .cons hr .nil

end Connection

/-! ### Counting a body -/

/-- A body without records has none: it is null or a record, and its result is missing or does not
count as set. -/
lemma recordCount_of_unset {body : Value} (hbody : body = .null ∨ ∃ entries, body = .record entries)
    (h : ∀ records, body.member? "result" = some records → records.isTruthy = false) :
    recordCount body = .ok (.int 0) := by
  rcases hbody with rfl | ⟨entries, rfl⟩
  · rfl
  · have hunset : ((Keyed.get? entries (.text "result")).getD .null).isTruthy = false := by
      cases hresult : Keyed.get? entries (.text "result") with
      | none => rfl
      | some records => exact h records hresult
    unfold recordCount
    split
    · simp [hunset]
    · rfl

/-- The number of records of a body with a list of them is its length. -/
lemma recordCount_of_list {body : Value} {items : List Value}
    (h : body.member? "result" = some (.list items)) :
    recordCount body = .ok (.int items.length) := by
  cases body with
  | record entries =>
    have hresult : Keyed.get? entries (.text "result") = some (.list items) := h
    have hset : (Value.record entries).isTruthy = true := by
      cases entries with
      | nil => cases hresult
      | cons e es => rfl
    rw [recordCount, if_pos hset, hresult]
    dsimp only [Option.getD_some]
    cases items with
    | nil => rfl
    | cons v vs => rfl
  | _ => cases h

/-- A response with a body in UTF-8 is decoded to what the characters of the body are read as. -/
lemma Response.decoded_ofUtf8 {status : Int} {reason : Option Text} {headers : Members}
    {cs : List Char} {v : Value} (hempty : (Text.Utf8.encode cs).isEmpty = false)
    (hread : Json.readChars cs = .ok v) :
    (Response.ofUtf8 status reason (Text.Utf8.encode cs) headers).decoded = .ok v := by
  have hvalue : (Response.ofUtf8 status reason (Text.Utf8.encode cs) headers).read = .ok v := by
    rw [Response.read, Response.ofUtf8, Json.read, Text.Utf8.decodeLossy_encode,
      String.toList_ofList, hread]
  have hbody : (Response.ofUtf8 status reason (Text.Utf8.encode cs) headers).body =
      Text.Utf8.encode cs := rfl
  rw [Response.decoded, hbody, hempty, if_neg Bool.false_ne_true, hvalue]

/-- **Counting is what is made of listing.** For every table and every query, and whatever comes of
the request, a count sends the request of the listing of the one field that it asks for, but for the
order of the parameters, and fails as this listing does. Both send one request when the table is
named by characters and the parameters are built and can be written, which they are for a query that
is absent, a text, or a draft that has tokens. When the listing results in a body that is null or a
record, the count is zero if the result in it is missing or does not count as set, and otherwise the
number of the records if it is a list of them.

**Proof sketch.** The two operations have the same parameters (`params_count_matches`) and the same
request with them (`Connection.plan_count`), so that the count results in what is made of the result
of the listing (`Connection.result_count`). -/
theorem Connection.count_projects_list (c : Connection) (ch : Channel) (table query : Value) :
    let counting := (c.perform (.count table query)).run ch
    let listing := (c.perform (.counted table query)).run ch
    List.Forall₂ Request.Equivalent (c.sentBy ch (.count table query))
        (c.sentBy ch (.counted table query)) ∧
      (∀ cs params, table = .text (.ofChars cs) →
        (Operation.count table query).Sendable ch.journal params →
        ∃ r r', c.sentBy ch (.count table query) = [r] ∧
          c.sentBy ch (.counted table query) = [r'] ∧ r.Equivalent r' ∧
          r.method = .text "GET" ∧ r.url = c.address [cs] ∧ r.params = params) ∧
      (IsPlainQuery query →
        ∃ params, (Operation.count table query).Sendable ch.journal params) ∧
      (∀ fault, listing.1 = .error fault → counting.1 = .error fault) ∧
      ∀ body, listing.1 = .ok body → (body = .null ∨ ∃ entries, body = .record entries) →
        ((∀ records, body.member? "result" = some records → records.isTruthy = false) →
          counting.1 = .ok (.int 0)) ∧
        ∀ items, body.member? "result" = some (.list items) →
          counting.1 = .ok (.int items.length) := by
  intro counting listing
  have hsame := c.sentBy_count ch table query
  have hprojects : counting.1 = listing.1 >>= recordCount := by
    show ((c.perform (.count table query)).run ch).1 =
      ((c.perform (.counted table query)).run ch).1 >>= recordCount
    rw [c.run_perform, c.run_perform]
    exact c.result_count table query ch.journal ch.next
  refine ⟨hsame, fun cs params htable hsendable => ?_, fun h => h.sendable table ch.journal,
    fun fault hfault => ?_, fun body hbody hkind => ⟨?_, ?_⟩⟩
  · have hnamed : (Operation.count table query).NamedBy [cs] := congrArg (fun v => [v]) htable
    have hsent := sentBy_of_sendable (c := c) hnamed hsendable
    rw [hsent, List.forall₂_cons_left_iff] at hsame
    obtain ⟨r', rest, hr, hrest, hlisted⟩ := hsame
    obtain rfl := List.forall₂_nil_left_iff.1 hrest
    exact ⟨_, r', hsent, hlisted, hr, rfl, rfl, rfl⟩
  · rw [hprojects, hfault]
    rfl
  · intro hunset
    rw [hprojects, hbody]
    exact recordCount_of_unset hkind hunset
  · intro items hitems
    rw [hprojects, hbody]
    exact recordCount_of_list hitems

/-- Two records are listed, one of which has a field: the count of them is two. Both are asked for
by one request, which differ in the order of their two parameters. -/
theorem Connection.count_projects_list_two :
    let body := Text.Utf8.encode "\x7b\"result\":[\x7b\"a\":null\x7d,\x7b\x7d]\x7d".toList
    let ch : Channel := .fresh [.response (.ofUtf8 200 (some "OK") body [])] .plain
    let table : Value := .text "incident"
    let query : Value := .text "active=true"
    let records : List Value := [.record [(.text "a", .null)], .record []]
    (∃ r r', plain.sentBy ch (.count table query) = [r] ∧
        plain.sentBy ch (.counted table query) = [r'] ∧ r.Equivalent r' ∧
        r.params = .ofMembers [(Parameter.fields.name, .text countField),
          (Parameter.query.name, query)]) ∧
      ((plain.perform (.counted table query)).run ch).1 =
        .ok (.record [(.text "result", .list records)]) ∧
      ((plain.perform (.count table query)).run ch).1 = .ok (.int 2) := by
  intro body ch table query records
  obtain ⟨-, hone, hsendable, -, hcount⟩ := count_projects_list plain ch table query
  have hparams : (Operation.count table query).params =
      .ok (.ofMembers [(Parameter.fields.name, .text countField),
        (Parameter.query.name, query)]) := rfl
  obtain ⟨params, hparams', hwritable⟩ := hsendable (.text _)
  obtain rfl := Except.ok.inj (hparams'.symm.trans hparams)
  obtain ⟨r, r', hsent, hlisted, hr, -, -, hmembers⟩ :=
    hone "incident".toList _ rfl ⟨hparams', hwritable⟩
  have hread : Json.readChars "\x7b\"result\":[\x7b\"a\":null\x7d,\x7b\x7d]\x7d".toList =
      .ok (.record [(.text "result", .list records)]) := by
    simp only [String.reduceToList, records]
    cbv
  let response : Response := .ofUtf8 200 (some "OK") body []
  have hdecoded : response.decoded = .ok (.record [(.text "result", .list records)]) :=
    Response.decoded_ofUtf8 rfl hread
  have hplan : (plain.plan ch.journal (.counted table query)).isOk = true := by
    have hmem : r' ∈ plain.sentBy ch (.counted table query) := by
      rw [hlisted]
      exact List.mem_singleton_self r'
    rw [plain.mem_sentBy_iff.1 hmem]
    rfl
  have hnumeral : Value.hasNumeral 200 = true := by
    simp [Value.hasNumeral, Numeral.ofNat, Decimal.maxIntDigits]
  have hlisting : ((plain.perform (.counted table query)).run ch).1 =
      .ok (.record [(.text "result", .list records)]) := by
    have hnext : ch.next = .response response := rfl
    obtain ⟨params, hrun⟩ := run_perform_of_accepted hplan hnext Bool.false_ne_true hnumeral
    rw [hrun]
    show response.decoded.mapError _ >>= Except.ok = _
    rw [hdecoded]
    rfl
  exact ⟨⟨r, r', hsent, hlisted, hr, hmembers⟩, hlisting,
    (hcount _ hlisting (.inr ⟨_, rfl⟩)).2 records rfl⟩

end TableClient.Client
