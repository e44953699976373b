import TableClient.Proofs.Client.Reports

set_option relaxedAutoImplicit false
set_option autoImplicit false

/-!
# Accepted and refused responses

A response is meant to count as a success when its status is one of the two hundreds, and to be
reported as a fault otherwise. Requests are refused for the statuses from 400 to 599 only, so that a
response with a status below 200, from 300 to 399, or from 600 on is accepted as if it were a
success. Whether a response is refused depends on its status alone: neither its body nor what a
caller wants to get out of it is looked at before.

## Main definitions

* `TableClient.Client.IsSuccess`, `TableClient.Client.IsRefusal` — the statuses of successes, and
  those that are refused.
* `TableClient.Client.Connection.Refuses`, `TableClient.Client.Connection.Accepts` — a connection
  refuses or accepts responses of a status.

## Main results

* `TableClient.Client.Connection.refuses_iff`, `TableClient.Client.Connection.accepts_iff` — what is
  refused and what is accepted.
* `TableClient.Client.Connection.judged_by_success_iff` — the statuses that are judged as meant.
-/

namespace TableClient.Client

/-- The statuses of successes. -/
def IsSuccess (status : Int) : Prop := 200 ≤ status ∧ status ≤ 299

/-- The statuses of errors of the client or the server. -/
def IsRefusal (status : Int) : Prop := 400 ≤ status ∧ status ≤ 599

/-- A response is a rejection when its status is that of an error. -/
lemma Response.isRejection_iff (r : Response) : r.isRejection = true ↔ IsRefusal r.status := by
  unfold isRejection IsRefusal
  simp only [Bool.and_eq_true, decide_eq_true_eq]
  omega

namespace Connection

variable (c : Connection) (status : Int) (reason : Option Text)

/-- Whatever is requested from the instance: when it answers with a status and a reason, a call or
operation whose request is sent has a result with a property, for every body, however it is decoded,
all headers and every journal. A call may have any path, parameters and body, any method that can be
logged, and may be asked to get anything out of the response. -/
def Answered (P : Except Fault Value → Prop) : Prop :=
  ∀ (body : List UInt8) (text document : String) (headers : Members) (ch : Channel),
    ch.next = .response ⟨status, reason, body, text, document, headers⟩ →
    (∀ k, (c.requestOf ch.journal k).isOk → Json.fault? k.method (maxNesting - 1) = none →
      P ((c.call k).run ch).1) ∧
    ∀ o, (c.plan ch.journal o).isOk → P ((c.perform o).run ch).1

/-- Responses of a status are refused: there is one fault that reports the status, and everything
fails with it, whatever the body and the headers of the response are and whatever should be got out
of it. -/
def Refuses : Prop :=
  ∃ fault : OperationFault, fault.status? = some status ∧
    c.Answered status reason (· = .error (.operation fault))

/-- Responses of a status are accepted: nothing is reported about them. -/
def Accepts : Prop := c.Answered status reason fun result => reported? result = none

variable {c status reason} {ch : Channel} {response : Response}

/-- A call with a request results in what comes of it. -/
lemma run_call_of_response {k : Call} (hk : (c.requestOf ch.journal k).isOk)
    (h : ch.next = .response response) :
    ∃ r, r.method = k.method ∧
      ((c.call k).run ch).1 = c.settled ch.journal k r (.response response) := by
  have hrun : (c.call k).run ch =
      (c.callResult ch.journal k ch.next, ch.after (c.callFootprint ch.journal k ch.next)) :=
    Leaves.call k
  obtain ⟨r, hr⟩ := exists_of_isOk hk
  obtain ⟨url, -, rfl, -⟩ := request_of_requestOf hr
  refine ⟨c.request k url, rfl, ?_⟩
  rw [hrun, h, callResult, hr]
  rfl

/-- An operation with a request results in what it makes of what comes of it. -/
lemma run_perform_of_response {o : Operation} (ho : (c.plan ch.journal o).isOk)
    (h : ch.next = .response response) :
    ∃ r, Json.fault? r.method (maxNesting - 1) = none ∧
      ((c.perform o).run ch).1 =
        c.settled ch.journal (o.call r.params) r (.response response) >>= o.finish := by
  obtain ⟨r, hr⟩ := exists_of_isOk ho
  refine ⟨r, method_of_plan hr, ?_⟩
  rw [run_perform, h, result_eq, hr]
  rfl

/-- An operation makes of an accepted response what is in it, if there is a numeral of the
status. -/
lemma run_perform_of_accepted {o : Operation} (ho : (c.plan ch.journal o).isOk)
    (h : ch.next = .response response) (haccepted : ¬ response.isRejection = true)
    (hnumeral : Value.hasNumeral response.status = true) :
    ∃ params, ((c.perform o).run ch).1 = (o.call params).answer response >>= o.finish := by
  have houtcome : (Outcome.response response).HasNumeral := hnumeral
  obtain ⟨r, hmethod, hrun⟩ := run_perform_of_response ho h
  refine ⟨r.params, ?_⟩
  have hsettle : c.settle (o.call r.params) (.response response) =
      (o.call r.params).answer response := if_neg haccepted
  rw [hrun, c.settled_of_hasNumeral ch.journal _ hmethod houtcome, hsettle]

/-- Nothing is reported about a response that is no rejection. -/
lemma reported?_settled_of_accepted (j : Log.Journal) (k : Call) (r : Request)
    (h : ¬ response.isRejection = true) :
    reported? (c.settled j k r (.response response)) = none := by
  rw [c.settled_of_accepted j k h]
  split
  · rfl
  · exact reported?_answer k response

/-- Responses with the status of an error are refused. -/
lemma refuses_of_isRefusal (h : IsRefusal status) : c.Refuses status reason := by
  refine ⟨.rejected c.host status (reason.elim .null .text), rfl, ?_⟩
  intro body text document headers ch hnext
  have hrejection : Response.isRejection ⟨status, reason, body, text, document, headers⟩ = true :=
    (Response.isRejection_iff _).2 h
  constructor
  · intro k hk hmethod
    obtain ⟨r, hr, hrun⟩ := run_call_of_response hk hnext
    rw [hrun, c.settled_of_isRejection _ _ (by rw [hr]; exact hmethod) hrejection]
    rfl
  · intro o ho
    obtain ⟨r, hmethod, hrun⟩ := run_perform_of_response ho hnext
    rw [hrun, c.settled_of_isRejection _ _ hmethod hrejection]
    rfl

/-- Responses with any other status are accepted. -/
lemma accepts_of_not_isRefusal (h : ¬ IsRefusal status) : c.Accepts status reason := by
  intro body text document headers ch hnext
  have haccepted :
      ¬ Response.isRejection ⟨status, reason, body, text, document, headers⟩ = true :=
    mt (Response.isRejection_iff _).1 h
  constructor
  · intro k hk _
    obtain ⟨r, -, hrun⟩ := run_call_of_response hk hnext
    rw [hrun]
    exact reported?_settled_of_accepted _ k r haccepted
  · intro o ho
    obtain ⟨r, -, hrun⟩ := run_perform_of_response ho hnext
    rw [hrun, reported?_bind (reported?_finish o)]
    exact reported?_settled_of_accepted _ _ r haccepted

/-- No response is both refused and accepted: the instance itself can be asked for something. -/
lemma Refuses.not_accepts (h : c.Refuses status reason) : ¬ c.Accepts status reason := by
  intro haccepts
  obtain ⟨fault, -, hfault⟩ := h
  let root : Call := { path := .list [] }
  let ch : Channel := .fresh [.response ⟨status, reason, [], "", "", []⟩] .plain
  have hroot : (c.requestOf ch.journal root).isOk := by
    have hurl : c.url root = .ok (c.settings.baseUrl ++ Text.ofString "") := rfl
    have hopening :
        ch.journal.refusal? (c.request root (c.settings.baseUrl ++ "")).opening = none := by
      rw [Request.refusal?_opening (Json.fault?_text _ _)]
      split
      · exact Option.map_eq_none_iff.2 (Json.fault?_null _)
      · rfl
    rw [requestOf, hurl]
    dsimp only
    rw [hopening]
    rfl
  have hmethod : Json.fault? root.method (maxNesting - 1) = none := Json.fault?_text _ _
  have hreported : ((c.call root).run ch).1 = .error (.operation fault) :=
    (hfault [] "" "" [] ch rfl).1 root hroot hmethod
  have hnone : reported? ((c.call root).run ch).1 = none :=
    (haccepts [] "" "" [] ch rfl).1 root hroot hmethod
  rw [hreported] at hnone
  cases hnone

variable (c status reason)

/-- **What is refused**: the statuses of errors of the client or the server. -/
theorem refuses_iff : c.Refuses status reason ↔ IsRefusal status := by
  constructor
  · intro hrefuses
    by_contra h
    exact hrefuses.not_accepts (accepts_of_not_isRefusal h)
  · exact refuses_of_isRefusal

/-- **What is accepted**: everything else. -/
theorem accepts_iff : c.Accepts status reason ↔ ¬ IsRefusal status := by
  constructor
  · intro haccepts h
    exact (refuses_of_isRefusal h).not_accepts haccepts
  · exact accepts_of_not_isRefusal

/-- **The statuses that are judged by success.** Responses are refused when their status is that of
an error of the client or the server, and accepted otherwise. Hence exactly these two kinds of
statuses are judged as meant, which is to accept successes and to refuse everything else: the
successes themselves and the statuses of errors. -/
theorem judged_by_success_iff :
    (c.Refuses status reason ↔ IsRefusal status) ∧
      (c.Accepts status reason ↔ ¬ IsRefusal status) ∧
      ((IsSuccess status → c.Accepts status reason) ∧
          (¬ IsSuccess status → c.Refuses status reason) ↔
        IsSuccess status ∨ IsRefusal status) := by
  refine ⟨c.refuses_iff status reason, c.accepts_iff status reason, ?_⟩
  rw [refuses_iff, accepts_iff]
  have hdisjoint : IsSuccess status → ¬ IsRefusal status := by
    unfold IsSuccess IsRefusal
    omega
  tauto

/-- A record is fetched, and the answer is that it was not modified: that is no success, and yet it
is taken for the record. -/
theorem not_modified_accepted :
    ¬ IsSuccess 304 ∧
      ((plain.perform (.fetch (.text "incident") (.text "1"))).run
        (.fresh [.response (.ofUtf8 304 (some "Not Modified") [] [])] .plain)).1 = .ok .null := by
  refine ⟨by unfold IsSuccess; omega, ?_⟩
  let o : Operation := .fetch (.text "incident") (.text "1")
  let unmodified : Response := .ofUtf8 304 (some "Not Modified") [] []
  let ch : Channel := .fresh [.response unmodified] .plain
  have hnamed : o.NamedBy ["incident".toList, "1".toList] := rfl
  have hplan : (plain.plan ch.journal o).isOk := isOk_plan hnamed ⟨rfl, fun _ => Json.fault?_null _⟩
  have hnumeral : Value.hasNumeral 304 = true := by
    simp [Value.hasNumeral, Numeral.ofNat, Decimal.maxIntDigits]
  have hnext : ch.next = .response unmodified := rfl
  obtain ⟨params, hrun⟩ := run_perform_of_accepted hplan hnext Bool.false_ne_true hnumeral
  exact hrun

end Connection

end TableClient.Client
