import TableClient.Proofs.Client.Operations
import TableClient.Proofs.Url.Path

set_option relaxedAutoImplicit false
set_option autoImplicit false

/-!
# Addresses of tables and records

An operation whose table and record are named by characters sends its request to the base URL
followed by the path of these names. As a path can be taken apart into the names that it was made
of, whatever characters they contain, operations on different records never share an address, and
neither do an operation on a table as a whole and one on a record.

## Main definitions

* `TableClient.Client.Operation.NamedBy` — the names of the table and the record of an operation.
* `TableClient.Client.Operation.Sendable` — the parameters of an operation that can be sent.
* `TableClient.Client.Connection.address` — the address of names.
* `TableClient.Client.Connection.requestFor` — the request of an operation with its parameters.

## Main results

* `TableClient.Client.Connection.plan_eq_ok_iff`, `TableClient.Client.Connection.sentBy_of_sendable`
  — the request of an operation on named subjects.
* `TableClient.Client.Connection.addresses_faithful` — paths and addresses determine the names.
-/

namespace TableClient.Client

/-! ### Operations on named subjects -/

namespace Operation

/-- Parameters that are texts can be written. -/
lemma fault?_texts {members : Members} (h : ∀ member ∈ members, ∃ t, member.2 = .text t) :
    Json.fault? (.ofMembers members) (maxNesting - 1) = none := by
  have hfault := Json.fault?_ofMembers members (maxNesting - 2)
  refine hfault.trans (List.findSome?_eq_none_iff.2 fun member hmember => ?_)
  obtain ⟨t, ht⟩ := h member hmember
  rw [ht]
  exact Json.fault?_text t _

/-- What an operation is about: its table, and its record if it is about one. -/
def subjects : Operation → List Value
  | list table _ | count table _ | create table _ => [table]
  | fetch table id | update table _ id | delete table id => [table, id]

/-- The subjects of an operation are named by lists of characters. -/
def NamedBy (o : Operation) (names : List (List Char)) : Prop :=
  o.subjects = names.map fun cs => .text (.ofChars cs)

/-- The table of an operation. -/
def table : Operation → Value
  | list table _ | count table _ | create table _ | fetch table _ | update table _ _
  | delete table _ => table

variable {o : Operation} {names : List (List Char)}

/-- The table of an operation on named subjects is a text. -/
lemma NamedBy.table_eq (h : o.NamedBy names) : ∃ t, o.table = .text t := by
  obtain _ | ⟨cs, rest⟩ := names
  · cases o <;> cases h
  · have hfirst : o.subjects.head? = some o.table := by cases o <;> rfl
    rw [h] at hfirst
    exact ⟨.ofChars cs, (Option.some.inj hfirst).symm⟩

/-- A call on a table that is a text is a call on the subjects of its operation. -/
lemma call_of_table {t : Text} (h : o.table = .text t) (params : Value) :
    (o.call params).tableName = .ok t ∧ (o.call params).segments = o.subjects := by
  cases o <;> obtain rfl : _ = Value.text t := h <;> exact ⟨rfl, rfl⟩

/-- The parameters of an operation are built, and they can be written if the journal puts the entry
before a request together. -/
structure Sendable (o : Operation) (j : Log.Journal) (params : Value) : Prop where
  built : o.params = .ok params
  writable : j.examines .debug = true → Json.fault? params (maxNesting - 1) = none

end Operation

namespace Connection

variable (c : Connection)

/-- The address of names: the base URL and the path of the names. -/
def address (names : List (List Char)) : Text :=
  c.settings.baseUrl ++ Text.ofString (String.ofList (Url.pathChars names))

/-- The request of an operation with its parameters, at an address. -/
def requestFor (o : Operation) (names : List (List Char)) (params : Value) : Request where
  method := .text o.method
  url := c.address names
  params := params
  body := o.body
  timeout := c.settings.timeout

variable {c} {o : Operation} {names : List (List Char)}

/-- The URL of an operation on named subjects is their address. -/
lemma url_eq (h : o.NamedBy names) (params : Value) :
    c.url (o.call params) = .ok (c.address names) := by
  obtain ⟨t, ht⟩ := h.table_eq
  rw [url, (Operation.call_of_table ht params).2, h, Url.ofValues_ofChars]
  rfl

/-- The call of an operation on named subjects has a request at their address, unless its parameters
cannot be written. -/
lemma requestOf_eq (j : Log.Journal) (h : o.NamedBy names) (params : Value) :
    c.requestOf j (o.call params) =
      match if j.examines .debug then Json.fault? params (maxNesting - 1) else none with
      | some f => .error (.log (.unwritable f))
      | none => .ok (c.requestFor o names params) := by
  have hopening : j.refusal? (c.request (o.call params) (c.address names)).opening =
      if j.examines .debug then (Json.fault? params (maxNesting - 1)).map .unwritable else none :=
    Request.refusal?_opening (Json.fault?_text _ _) j
  rw [requestOf, url_eq h]
  dsimp only
  rw [hopening]
  cases j.examines .debug with
  | false => rfl
  | true => cases Json.fault? params (maxNesting - 1) <;> rfl

/-- The call of an operation on named subjects has a request when its parameters can be written. -/
lemma requestOf_of_writable {j : Log.Journal} {params : Value} (h : o.NamedBy names)
    (hwritable : j.examines .debug = true → Json.fault? params (maxNesting - 1) = none) :
    c.requestOf j (o.call params) = .ok (c.requestFor o names params) := by
  have hfault : (if j.examines .debug then Json.fault? params (maxNesting - 1) else none) =
      none := by
    split
    · rename_i hexamines
      exact hwritable hexamines
    · rfl
  rw [requestOf_eq j h, hfault]

/-- **The request of an operation on named subjects** goes to their address, once its parameters are
built and unless they cannot be written. -/
theorem plan_eq_ok_iff {j : Log.Journal} {r : Request} (h : o.NamedBy names) :
    c.plan j o = .ok r ↔ ∃ params, o.Sendable j params ∧ r = c.requestFor o names params := by
  constructor
  · intro hplan
    obtain ⟨hparams, -, hrequest⟩ := params_of_plan hplan
    rw [requestOf_eq j h] at hrequest
    split at hrequest
    · cases hrequest
    · rename_i hfault
      refine ⟨r.params, ⟨hparams, fun hexamines => ?_⟩, (Except.ok.inj hrequest).symm⟩
      rwa [if_pos hexamines] at hfault
  · rintro ⟨params, ⟨hparams, hwritable⟩, rfl⟩
    obtain ⟨t, ht⟩ := h.table_eq
    rw [plan, hparams]
    show ((o.call params).tableName >>= fun _ => c.requestOf j (o.call params)) = _
    rw [(Operation.call_of_table ht params).1, requestOf_of_writable h hwritable]
    rfl

/-- An operation on named subjects has a request when its parameters are built and can be
written. -/
lemma isOk_plan {j : Log.Journal} {params : Value} (h : o.NamedBy names)
    (hsendable : o.Sendable j params) : (c.plan j o).isOk = true := by
  rw [(plan_eq_ok_iff h).2 ⟨params, hsendable, rfl⟩]
  rfl

/-- **An operation on named subjects sends one request** to their address when its parameters are
built and can be written. -/
theorem sentBy_of_sendable {ch : Channel} {params : Value} (h : o.NamedBy names)
    (hsendable : o.Sendable ch.journal params) :
    c.sentBy ch o = [c.requestFor o names params] := by
  rw [sentBy_eq, (plan_eq_ok_iff h).2 ⟨params, hsendable, rfl⟩]
  rfl

/-- An operation on named subjects sends nothing when its parameters are not built or cannot be
written. -/
lemma sentBy_of_not_sendable {ch : Channel} (h : o.NamedBy names)
    (hsendable : ∀ params, ¬ o.Sendable ch.journal params) : c.sentBy ch o = [] := by
  rw [sentBy_eq]
  cases hplan : c.plan ch.journal o with
  | error f => rfl
  | ok r =>
    obtain ⟨params, hparams, -⟩ := (plan_eq_ok_iff h).1 hplan
    exact absurd hparams (hsendable params)

/-- The requests of an operation on named subjects go to their address. -/
lemma url_of_mem_sentBy {ch : Channel} {r : Request} (h : o.NamedBy names)
    (hr : r ∈ c.sentBy ch o) : r.url = c.address names := by
  obtain ⟨params, -, rfl⟩ := (plan_eq_ok_iff h).1 (c.mem_sentBy_iff.1 hr)
  rfl

/-- Addresses of different names are different. -/
lemma address_injective (c : Connection) : Function.Injective c.address := by
  intro names names' h
  have hchars : (String.ofList (Url.pathChars names)).toList =
      (String.ofList (Url.pathChars names')).toList :=
    Text.ofChars_injective (Text.append_left_cancel h)
  rw [String.toList_ofList, String.toList_ofList] at hchars
  exact Url.pathChars_injective hchars

/-- **Addresses are faithful.** A list of names has a path with one slash for each of them. The text
between the slashes consists of characters that stand for themselves and of escapes, and the names
can be read back from it, so that different lists have different paths. An operation on named
subjects sends one request, to the base URL followed by the path of the names, when its parameters
are built and can be written, and no request otherwise. Hence operations with requests to one URL
are about the same subjects: the same record, or the same table as a whole.

**Proof sketch.** The first part is the round trip through percent-encoding, for each part between
two slashes (`Url.segments?_pathChars`). An operation sends the request of its call and no other
(`sentBy_eq`), which goes to the address of its names (`plan_eq_ok_iff`), and addresses of different
names are different because paths are. -/
theorem addresses_faithful (c : Connection) :
    (∀ names : List (List Char), ∃ path,
      Url.ofValues (names.map fun cs => .text (.ofChars cs)) = .ok path ∧
      path.toList.count '/' = names.length ∧
      (∃ parts, Url.splitPath? path.toList = some parts ∧ ∀ part ∈ parts, Url.Encoded part) ∧
      Url.segments? path.toList = some (names.map Text.ofChars)) ∧
    (∀ names names' : List (List Char),
      Url.ofValues (names.map fun cs => .text (.ofChars cs)) =
        Url.ofValues (names'.map fun cs => .text (.ofChars cs)) → names = names') ∧
    (∀ (o : Operation) (names : List (List Char)) (ch : Channel), o.NamedBy names →
      ∃ path, Url.ofValues (names.map fun cs => .text (.ofChars cs)) = .ok path ∧
        (∀ params, o.Sendable ch.journal params →
          (c.sentBy ch o).map Request.url = [c.settings.baseUrl ++ Text.ofString path]) ∧
        ((∀ params, ¬ o.Sendable ch.journal params) → c.sentBy ch o = [])) ∧
    ∀ (o o' : Operation) (names names' : List (List Char)) (ch ch' : Channel),
      o.NamedBy names → o'.NamedBy names' →
      ∀ r ∈ c.sentBy ch o, ∀ r' ∈ c.sentBy ch' o', r.url = r'.url → o.subjects = o'.subjects := by
  refine ⟨fun names => ?_, fun names names' h => ?_, fun o names ch h => ?_,
    fun o o' names names' ch ch' h h' r hr r' hr' heq => ?_⟩
  · refine ⟨_, Url.ofValues_ofChars names, ?_⟩
    rw [String.toList_ofList]
    refine ⟨Url.count_slash_pathChars names, ⟨_, Url.splitPath?_pathChars names, ?_⟩,
      Url.segments?_pathChars names⟩
    exact List.forall_mem_map.2 fun cs _ => Url.encoded_encode cs
  · rw [Url.ofValues_ofChars, Url.ofValues_ofChars] at h
    exact Url.pathChars_injective (String.ofList_injective (Except.ok.inj h))
  · refine ⟨_, Url.ofValues_ofChars names, fun params hparams => ?_, sentBy_of_not_sendable h⟩
    rw [sentBy_of_sendable h hparams]
    rfl
  · rw [url_of_mem_sentBy h hr, url_of_mem_sentBy h' hr'] at heq
    rw [h, h', c.address_injective heq]

/-- A slash may stand in the name of a table or in that of a record: the records `c` of the table
`a/b` and `b/c` of the table `a` are fetched from different URLs. -/
theorem addresses_faithful_slash :
    let ch := Channel.fresh [] .plain
    ∃ r ∈ plain.sentBy ch (.fetch (.text "a/b") (.text "c")),
      ∃ r' ∈ plain.sentBy ch (.fetch (.text "a") (.text "b/c")), r.url ≠ r'.url := by
  intro ch
  let o : Operation := .fetch (.text "a/b") (.text "c")
  let o' : Operation := .fetch (.text "a") (.text "b/c")
  let names : List (List Char) := ["a/b".toList, "c".toList]
  let names' : List (List Char) := ["a".toList, "b/c".toList]
  have hnamed : o.NamedBy names := rfl
  have hnamed' : o'.NamedBy names' := rfl
  have hsent : plain.requestFor o names .null ∈ plain.sentBy ch o := by
    rw [sentBy_of_sendable hnamed ⟨rfl, fun _ => Json.fault?_null _⟩]
    exact List.mem_singleton_self _
  have hsent' : plain.requestFor o' names' .null ∈ plain.sentBy ch o' := by
    rw [sentBy_of_sendable hnamed' ⟨rfl, fun _ => Json.fault?_null _⟩]
    exact List.mem_singleton_self _
  refine ⟨_, hsent, _, hsent', fun heq => ?_⟩
  have hsubjects : o.subjects = o'.subjects :=
    (addresses_faithful plain).2.2.2 o o' names names' ch ch hnamed hnamed' _ hsent _ hsent' heq
  simp [o, o', Operation.subjects, Text.ofString, Text.ofChars] at hsubjects

end Connection

end TableClient.Client
