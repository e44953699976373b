import TableClient.Proofs.Client.Addresses
import TableClient.Proofs.Url.Resolution

set_option relaxedAutoImplicit false
set_option autoImplicit false

/-!
# Requests that stay at their address

Whatever is in the name of a table or a record is spelled so that it means nothing in a URL. The
dots are the exception: they stand for themselves, so that a name of one dot or two is a dot segment
of the path, and whoever sends the request takes it out. A request stays at the address that was
asked for exactly when no segment of its path is such a name.

## Main definitions

* `TableClient.Client.IsDotSegment` — the segments that show as one dot or two.
* `TableClient.Client.Operation.segments` — the segments of the path of an operation.
* `TableClient.Client.Connection.Stays` — a request stays at the address of segments.

## Main results

* `TableClient.Client.Connection.stays_iff` — the requests that stay at their address.
-/

namespace TableClient.Client

/-- A segment that shows as one dot or two. -/
def IsDotSegment (v : Value) : Prop := v.shown = "." ∨ v.shown = ".."

/-- The segments of the path of an operation. -/
def Operation.segments (o : Operation) : List Value := (o.call .null).segments

/-- The segments of an operation on a table that is a text are its subjects. -/
lemma Operation.segments_of_table {o : Operation} {t : Text} (h : o.table = .text t) :
    o.segments = o.subjects := (call_of_table h .null).2

/-- The path of segments stays where it is exactly when none of them shows as a dot segment. -/
lemma isConfined_iff {segments : List Value} {path : String}
    (h : Url.ofValues segments = .ok path) :
    Url.IsConfined path.toList ↔ ∀ v ∈ segments, ¬ IsDotSegment v := by
  obtain ⟨css, hshown, rfl⟩ := Url.shown_of_ofValues h
  have hdots (cs : List Char) :
      Url.IsDots cs ↔ Text.ofChars cs = "." ∨ Text.ofChars cs = ".." :=
    or_congr Text.ofChars_injective.eq_iff.symm Text.ofChars_injective.eq_iff.symm
  have hmap : (∀ t ∈ segments.map Value.shown, ¬ (t = "." ∨ t = "..")) ↔
      ∀ v ∈ segments, ¬ IsDotSegment v := List.forall_mem_map
  rw [String.toList_ofList, Url.isConfined_pathChars_iff, ← hmap, hshown, List.forall_mem_map]
  simp only [hdots]

namespace Connection

/-- A request stays at the address of segments: it goes to the base URL and their path, and nothing
is taken out of this path. -/
def Stays (c : Connection) (url : Text) (segments : List Value) : Prop :=
  ∃ path, Url.ofValues segments = .ok path ∧
    url = c.settings.baseUrl ++ Text.ofString path ∧ Url.IsConfined path.toList

/-- The requests that a call sends. -/
def sentFor (c : Connection) (ch : Channel) (k : Call) : List Request :=
  ((c.call k).run ch).2.sent.drop ch.sent.length

variable {c : Connection} {ch : Channel}

/-- A call sends its request and no other. -/
lemma sentFor_eq (k : Call) :
    c.sentFor ch k = (c.requestOf ch.journal k).toOption.toList := by
  have hrun : (c.call k).run ch = (c.callResult ch.journal k ch.next,
      ch.after (c.callFootprint ch.journal k ch.next)) := Leaves.call k
  have hsent : (c.callFootprint ch.journal k ch.next).sent =
      (c.requestOf ch.journal k).toOption.toList := by
    unfold callFootprint
    cases c.requestOf ch.journal k <;> rfl
  rw [sentFor, hrun, Channel.after, hsent]
  exact List.drop_left

/-- The request of a call stays at the address of its segments unless one of them is a dot
segment. -/
lemma stays_of_request {j : Log.Journal} {k : Call} {r : Request}
    (h : c.requestOf j k = .ok r) :
    c.Stays r.url k.segments ↔ ∀ v ∈ k.segments, ¬ IsDotSegment v := by
  obtain ⟨url, hurl, rfl, -⟩ := request_of_requestOf h
  obtain ⟨path, hpath, rfl⟩ := map_eq_ok_iff.1 hurl
  rw [← isConfined_iff hpath]
  constructor
  · rintro ⟨other, hother, -, hconfined⟩
    cases hpath.symm.trans hother
    exact hconfined
  · intro hconfined
    exact ⟨path, hpath, rfl, hconfined⟩

/-- **Requests stay at their address** unless they have a dot segment. The request of a call,
whatever its path is made of, and the request of an operation on any table and any record go to the
base URL and the path of their segments. Nothing is taken out of this path, below whatever it
stands, exactly when none of the segments shows as one dot or two. The segments of an operation on a
table that is a text are this table and the record, if it is about one.

**Proof sketch.** A call sends its request and no other (`sentFor_eq`), and so does an operation
(`sentBy_eq`). An encoded segment has no slash in it, and it is a dot segment only if the segment is
(`Url.isDots_encode_iff`). What is taken out of a path is found segment by segment
(`Url.resolveFrom_joined`), and what is left has no dot segment. -/
theorem stays_iff (c : Connection) (ch : Channel) :
    (∀ k, ∀ r ∈ c.sentFor ch k,
      (c.Stays r.url k.segments ↔ ∀ v ∈ k.segments, ¬ IsDotSegment v)) ∧
    (∀ o, ∀ r ∈ c.sentBy ch o,
      (c.Stays r.url o.segments ↔ ∀ v ∈ o.segments, ¬ IsDotSegment v)) ∧
    ∀ (o : Operation) (t : Text), o.table = .text t → o.segments = o.subjects := by
  refine ⟨?_, ?_, fun o t => Operation.segments_of_table⟩
  · intro k r hr
    rw [sentFor_eq, Option.mem_toList, toOption_eq_some_iff] at hr
    exact stays_of_request hr
  · intro o r hr
    -- the segments of the call are those of the operation, whatever its parameters are
    obtain ⟨-, -, hrequest⟩ := params_of_plan (c.mem_sentBy_iff.1 hr)
    exact stays_of_request (k := o.call r.params) hrequest

/-- The record `1` of a table, asked for by a call and by an operation, is reached at its
address. -/
theorem stays_iff_numbered :
    let ch := Channel.fresh [] .plain
    let o : Operation := .fetch (.text "incident") (.text "1")
    (∃ r ∈ plain.sentFor ch (o.call .null), plain.Stays r.url o.segments) ∧
      ∃ r ∈ plain.sentBy ch o, plain.Stays r.url o.segments := by
  intro ch o
  let names : List (List Char) := ["incident".toList, "1".toList]
  have hnamed : o.NamedBy names := rfl
  have hwritable : ch.journal.examines .debug = true →
      Json.fault? .null (maxNesting - 1) = none := fun _ => Json.fault?_null _
  have hcall : plain.requestFor o names .null ∈ plain.sentFor ch (o.call .null) := by
    rw [sentFor_eq, requestOf_of_writable hnamed hwritable]
    exact List.mem_singleton_self _
  have hsent : plain.requestFor o names .null ∈ plain.sentBy ch o := by
    rw [sentBy_of_sendable hnamed ⟨rfl, hwritable⟩]
    exact List.mem_singleton_self _
  have hsegments : ∀ v ∈ o.segments, ¬ IsDotSegment v := by
    unfold IsDotSegment
    decide
  obtain ⟨hcalls, hoperations, -⟩ := stays_iff plain ch
  exact ⟨⟨_, hcall, (hcalls (o.call .null) _ hcall).2 hsegments⟩,
    ⟨_, hsent, (hoperations o _ hsent).2 hsegments⟩⟩

/-- The record `..` of a table: the request that is to delete it leads away from the table, to what
stands above it, which is the address of no table at all. -/
theorem dots_climb :
    let ch := Channel.fresh [] .plain
    let o : Operation := .delete (.text "incident") (.text "..")
    ∃ r ∈ plain.sentBy ch o,
      r.url = "https://dev.service-now.com/api/now/table/incident/.." ∧
        Url.resolved "/api/now/table/incident/..".toList = "/api/now/table/".toList ∧
        ¬ plain.Stays r.url o.segments := by
  intro ch o
  let names : List (List Char) := ["incident".toList, "..".toList]
  have hnamed : o.NamedBy names := rfl
  have hwritable : ch.journal.examines .debug = true →
      Json.fault? .null (maxNesting - 1) = none := fun _ => Json.fault?_null _
  have hrequest : plain.requestOf ch.journal (o.call .null) =
      .ok (plain.requestFor o names .null) := requestOf_of_writable hnamed hwritable
  refine ⟨plain.requestFor o names .null, ?_, by decide +kernel, ?_, ?_⟩
  · rw [sentBy_of_sendable hnamed ⟨rfl, hwritable⟩]
    exact List.mem_singleton_self _
  · let above : List (List Char) := ["api".toList, "now".toList, "table".toList]
    have habove : Url.Parted above := by
      unfold Url.Parted
      decide
    have htable : ¬ Url.IsDots "incident".toList := by decide
    exact (Url.resolved_dots habove (by decide) htable).2
  · intro hstays
    have hdots : Value.text ".." ∈ (o.call .null).segments :=
      List.mem_cons_of_mem _ (List.mem_singleton_self _)
    exact (stays_of_request hrequest).1 hstays _ hdots (.inr rfl)

end Connection

end TableClient.Client
