import TableClient.Proofs.Client.Acceptance
import TableClient.Proofs.Computation

set_option relaxedAutoImplicit false
set_option autoImplicit false

/-!
# Bodies that operations understand

Whatever an instance answers, an operation should result in a value or report a fault. What an
accepted response has in its body is the choice of the instance, though, and the operations take it
for granted to a different extent: listing and fetching hand over any value, deleting does not look
at the body, counting takes what counts as not set for no records, and creating and updating need
the id of a record where it is expected. An operation that does not understand the body of an
accepted response fails with a fault of another kind.

## Main definitions

* `TableClient.Client.Contained` — a value, or a reported fault.
* `TableClient.Client.HasId`, `TableClient.Client.HasCount` — bodies with the id of a record, and
  bodies whose records can be counted.
* `TableClient.Client.Operation.Understands` — the bodies that an operation understands.
* `TableClient.Client.Response.CanBeNoted` — the responses whose entry can be written.

## Main results

* `TableClient.Client.recordId_isOk_iff`, `TableClient.Client.recordCount_isOk_iff` — the bodies
  that have an id, or a number of records.
* `TableClient.Client.Connection.contained_iff` — the responses that an operation copes with.
-/

namespace TableClient.Client

/-- What callers are prepared for: a value, or a reported fault. -/
def Contained (result : Except Fault Value) : Prop :=
  (∃ v, result = .ok v) ∨ ∃ fault, result = .error (.operation fault)

/-- A body with the id of a record: a record with a result, which is a record with an id. -/
def HasId (body : Value) : Prop :=
  ∃ result, body.member? "result" = some result ∧ ∃ id, result.member? "sys_id" = some id

/-- Values that have a number of parts. -/
def IsCollection : Value → Prop
  | .list _ | .text _ | .record _ => True
  | _ => False

/-- A body whose records can be counted: it does not count as set, or it is a record whose result is
missing, does not count as set, or has a number of parts. -/
def HasCount (body : Value) : Prop :=
  body.isTruthy = true → ∃ entries, body = .record entries ∧
    ∀ result, body.member? "result" = some result → result.isTruthy = true → IsCollection result

/-- The responses whose body an operation understands, provided that they are accepted. -/
def Operation.Understands : Operation → Response → Prop
  | list .., r | fetch .., r => ∃ body, r.decoded = .ok body
  | count .., r => ∃ body, r.decoded = .ok body ∧ HasCount body
  | create .., r | update .., r => ∃ body, r.decoded = .ok body ∧ HasId body
  | delete .., _ => True

/-- The entry for an accepted response can be written: there is a numeral of its status, unless the
journal does not put the entry together. -/
def Response.CanBeNoted (response : Response) (j : Log.Journal) : Prop :=
  j.examines .debug = true → Value.hasNumeral response.status = true

/-! ### Reading bodies -/

/-- A computation that nothing is reported about is contained when it has a value. -/
lemma contained_iff_of_unreported {result : Except Fault Value} (h : reported? result = none) :
    Contained result ↔ ∃ v, result = .ok v := by
  constructor
  · rintro (hvalue | ⟨fault, rfl⟩)
    · exact hvalue
    · cases h
  · exact Or.inl

/-- A member that must be there is the member of its name. -/
lemma requireMember_eq_ok_iff {v m : Value} {name : String} :
    requireMember v name = .ok m ↔ v.member? name = some m := by
  unfold requireMember
  cases v with
  | record entries =>
    dsimp only [Value.member?]
    cases Keyed.get? entries (.text name) with
    | none => simp
    | some m' => simp
  | _ => simp [Value.member?]

/-- **The bodies that have an id.** -/
theorem recordId_isOk_iff (body : Value) : (∃ id, recordId body = .ok id) ↔ HasId body := by
  unfold HasId
  constructor
  · rintro ⟨id, h⟩
    obtain ⟨result, hresult, hid⟩ := bind_eq_ok_iff.1 h
    exact ⟨result, requireMember_eq_ok_iff.1 hresult, id, requireMember_eq_ok_iff.1 hid⟩
  · rintro ⟨result, hresult, id, hid⟩
    refine ⟨id, bind_eq_ok_iff.2 ⟨result, ?_, ?_⟩⟩
    · exact requireMember_eq_ok_iff.2 hresult
    · exact requireMember_eq_ok_iff.2 hid

/-- The values that have a number of parts. -/
lemma isSome_partCount?_iff (v : Value) : (partCount? v).isSome ↔ IsCollection v := by
  cases v <;> simp [partCount?, IsCollection]

/-- **The bodies whose records can be counted.** -/
theorem recordCount_isOk_iff (body : Value) :
    (∃ n, recordCount body = .ok n) ↔ HasCount body := by
  unfold recordCount HasCount
  by_cases hset : body.isTruthy = true
  · rw [if_pos hset]
    cases body with
    | record entries =>
      dsimp only [Value.member?]
      cases hresult : Keyed.get? entries (.text "result") with
      | none => simp [Value.isTruthy]
      | some result =>
        by_cases hr : result.isTruthy = true
        · have hparts := isSome_partCount?_iff result
          cases hcount : partCount? result with
          | none =>
            rw [hcount] at hparts
            simpa [hr, hcount, hset] using hparts
          | some n =>
            rw [hcount] at hparts
            simpa [hr, hcount, hset] using hparts
        · simp [hr]
    | _ => simp [hset]
  · simp [hset]

namespace Connection

variable {c : Connection} {ch : Channel} {response : Response} {o : Operation}

/-- What an operation makes of a response that is accepted has a value when its body is
understood. -/
lemma finish_answer_isOk_iff (o : Operation) (params : Value) (response : Response) :
    (∃ v, (o.call params).answer response >>= o.finish = .ok v) ↔ o.Understands response := by
  have hread {finish : Value → Except Fault Value} :
      (∃ v, response.decoded.mapError (fun f => Fault.selector (.unreadable f)) >>= finish =
        .ok v) ↔ ∃ body, response.decoded = .ok body ∧ ∃ v, finish body = .ok v := by
    simp only [bind_eq_ok_iff, mapError_eq_ok_iff]
    constructor
    · rintro ⟨v, body, hbody, hv⟩
      exact ⟨body, hbody, v, hv⟩
    · rintro ⟨body, hbody, v, hv⟩
      exact ⟨v, body, hbody, hv⟩
  cases o with
  | list table filter => exact hread.trans (by simp [Operation.Understands, Operation.finish])
  | fetch table id => exact hread.trans (by simp [Operation.Understands, Operation.finish])
  | count table query =>
    refine hread.trans (exists_congr fun body => and_congr_right fun _ => ?_)
    exact recordCount_isOk_iff body
  | create table body =>
    refine hread.trans (exists_congr fun body => and_congr_right fun _ => ?_)
    exact recordId_isOk_iff body
  | update table body id =>
    refine hread.trans (exists_congr fun body => and_congr_right fun _ => ?_)
    exact recordId_isOk_iff body
  | delete table id => exact iff_of_true ⟨_, rfl⟩ trivial

/-- The entry for an accepted response is refused when it cannot be written. -/
lemma refusal?_accepted_eq_none_iff {r : Request} {j : Log.Journal}
    (hmethod : Json.fault? r.method (maxNesting - 1) = none) :
    j.refusal? (r.accepted response) = none ↔ response.CanBeNoted j := by
  rw [Request.refusal?_accepted hmethod, Response.CanBeNoted]
  cases j.examines .debug <;> simp [Json.numeralFault?_eq_none]

/-- **The responses that an operation copes with.** An operation that has sent its request results
in a value or a reported fault exactly when the response is a rejection, or its entry can be written
and its body is one that the operation understands. -/
theorem contained_iff (c : Connection) (o : Operation) (ch : Channel) (response : Response)
    (hplanned : (c.plan ch.journal o).isOk) (hnext : ch.next = .response response) :
    Contained ((c.perform o).run ch).1 ↔
      response.isRejection = true ∨ response.CanBeNoted ch.journal ∧ o.Understands response := by
  obtain ⟨r, hmethod, hrun⟩ := run_perform_of_response hplanned hnext
  rw [hrun]
  by_cases h : response.isRejection = true
  · rw [c.settled_of_isRejection _ _ hmethod h]
    exact iff_of_true (.inr ⟨_, rfl⟩) (.inl h)
  · have hunreported : reported? (c.settled ch.journal (o.call r.params) r (.response response) >>=
        o.finish) = none := by
      rw [reported?_bind (reported?_finish o), reported?_settled_of_accepted _ _ _ h]
    rw [contained_iff_of_unreported hunreported, c.settled_of_accepted _ _ h, or_iff_right h,
      ← refusal?_accepted_eq_none_iff hmethod]
    cases ch.journal.refusal? (r.accepted response) with
    | some f =>
      have hfails : ¬ ∃ v, (Except.error (Fault.log f) : Except Fault Value) >>= o.finish = .ok v :=
        fun ⟨_, hv⟩ => nomatch hv
      simpa using hfails
    | none => simpa using finish_answer_isOk_iff o r.params response

/-- Records are counted, and the answer has no body: there are none. -/
theorem contained_iff_count_without_body :
    let o : Operation := .count (.text "incident") (.text "active=true")
    let response : Response := .ofUtf8 200 (some "OK") [] []
    Contained ((plain.perform o).run (.fresh [.response response] .plain)).1 := by
  intro o response
  let ch : Channel := .fresh [.response response] .plain
  have hnamed : o.NamedBy ["incident".toList] := rfl
  have hparams : o.params = .ok (.ofMembers [(Parameter.fields.name, .text countField),
      (Parameter.query.name, .text "active=true")]) := rfl
  have hplanned : (plain.plan ch.journal o).isOk := by
    refine isOk_plan hnamed ⟨hparams, fun _ => Operation.fault?_texts ?_⟩
    exact List.forall_mem_cons.2 ⟨⟨_, rfl⟩, List.forall_mem_singleton.2 ⟨_, rfl⟩⟩
  have hnoted : response.CanBeNoted ch.journal := by
    intro _
    simp [response, Response.ofUtf8, Value.hasNumeral, Numeral.ofNat, Decimal.maxIntDigits]
  have hunderstands : o.Understands response := ⟨.null, rfl, fun h => absurd h (by decide)⟩
  exact (contained_iff plain o ch response hplanned rfl).2 (.inr ⟨hnoted, hunderstands⟩)

/-- A record is created, and the answer has no body: there is no id to be found. -/
theorem create_without_body_not_contained :
    let o : Operation := .create (.text "incident") (.ofMembers [("state", .text "1")])
    let response : Response := .ofUtf8 201 (some "Created") [] []
    ((plain.perform o).run (.fresh [.response response] .plain)).1 = .error (.body .notRecord) ∧
      ¬ Contained ((plain.perform o).run (.fresh [.response response] .plain)).1 := by
  intro o response
  let ch : Channel := .fresh [.response response] .plain
  have hnamed : o.NamedBy ["incident".toList] := rfl
  have hplanned : (plain.plan ch.journal o).isOk :=
    isOk_plan hnamed ⟨rfl, fun _ => Json.fault?_null _⟩
  have hnumeral : Value.hasNumeral response.status = true := by
    simp [response, Response.ofUtf8, Value.hasNumeral, Numeral.ofNat, Decimal.maxIntDigits]
  have hresult : ((plain.perform o).run (.fresh [.response response] .plain)).1 =
      .error (.body .notRecord) := by
    have hnext : ch.next = .response response := rfl
    obtain ⟨params, hrun⟩ := run_perform_of_accepted hplanned hnext Bool.false_ne_true hnumeral
    exact hrun
  refine ⟨hresult, ?_⟩
  rw [hresult]
  rintro (⟨v, hv⟩ | ⟨fault, hfault⟩)
  · cases hv
  · cases hfault

end Connection

end TableClient.Client
