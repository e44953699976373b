import TableClient.Log.Journal
import TableClient.Proofs.Json.RoundTrip
import TableClient.Proofs.Keyed

set_option relaxedAutoImplicit false
set_option autoImplicit false

/-!
# Entries as records

An entry is written as a record that tells, under each name, the correlation id, a detail or what
every entry is stamped with. Whether it can be written does not depend on the time it is stamped
with. The line of an entry that can be written is read back as an image of its record.

## Main definitions

* `TableClient.Log.Entry.Writable` — the entries that can be written at any time and with any
  correlation id.

## Main results

* `TableClient.Log.Entry.fault?_eq_of_now` — the time does not matter.
* `TableClient.Log.Entry.Writable.fault?_eq_none`, `TableClient.Log.Entry.fault?_eq_of_detail` —
  entries whose parts can be written, but for one perhaps.
* `TableClient.Log.Entry.read_line`, `TableClient.Log.Entry.read_line_members` — the line of an
  entry is read back.
-/

namespace TableClient.Log

/-- The fault of a record of named values is that of the first value which has one. -/
lemma fault?_ofMembers (members : Members) :
    Json.fault? (.ofMembers members) maxNesting =
      members.findSome? fun member => Json.fault? member.2 (maxNesting - 1) :=
  Json.fault?_ofMembers members (maxNesting - 1)

namespace Entry

variable {e : Entry} {now : DateTime} {correlation : Option CorrelationId}

/-- The correlation id stands beside the other parts of an entry. -/
lemma get?_members (e : Entry) (now : DateTime) (correlation : Option CorrelationId) {name : Text}
    (h : ("correlation_id" : Text) ≠ name) :
    (e.members now correlation).get? name = (e.members now none).get? name := by
  unfold members
  cases correlation with
  | none => rfl
  | some id =>
    dsimp only
    split
    · exact Keyed.get?_insert_of_ne _ _ h
    · rfl

/-- The names of an entry are distinct. -/
lemma nodup_members (e : Entry) (now : DateTime) (correlation : Option CorrelationId) :
    (e.members now correlation).keys.Nodup := by
  have hstamp : (Keyed.keys [(("timestamp" : Text), Value.text (timeText now)),
      ("level", .text e.level.name), ("message", e.message)]).Nodup := by
    show [("timestamp" : Text), "level", "message"].Nodup
    decide
  have hall := Keyed.nodup_insertAll hstamp e.details
  unfold members
  cases correlation with
  | none => exact hall
  | some id =>
    dsimp only
    split
    · exact Keyed.nodup_insert hall "correlation_id" id.value
    · exact hall

/-- **What the record of an entry is made of**: what every entry is stamped with, the details and
the correlation id. -/
theorem forall_mem_members {P : Text × Value → Prop}
    (hstamp : ∀ member ∈ [(("timestamp" : Text), Value.text (timeText now)),
      ("level", .text e.level.name), ("message", e.message)], P member)
    (hdetails : ∀ detail ∈ e.details, P detail)
    (hid : ∀ id, correlation = some id → P ("correlation_id", id.value)) :
    ∀ member ∈ e.members now correlation, P member := by
  have hall : ∀ member ∈ e.members now none, P member := fun member hmember =>
    (Keyed.mem_or_mem_of_mem_insertAll hmember).elim (hdetails member) (hstamp member)
  intro member hmember
  unfold members at hmember
  cases correlation with
  | none => exact hall member hmember
  | some id =>
    dsimp only at hmember
    split at hmember
    · rcases Keyed.eq_or_mem_of_mem_insert hmember with rfl | hthere
      · exact hid id rfl
      · exact hall member hthere
    · exact hall member hmember

/-! ### Whether an entry can be written -/

/-- **Whether an entry can be written does not depend on the time** that it is stamped with, which
is a text. -/
theorem fault?_eq_of_now (e : Entry) (now now' : DateTime) (correlation : Option CorrelationId) :
    e.fault? now' correlation = e.fault? now correlation := by
  let Same : Text → Value → Value → Prop := fun _ v v' =>
    Json.fault? v' (maxNesting - 1) = Json.fault? v (maxNesting - 1)
  have hrefl (name : Text) (v : Value) : Same name v v := rfl
  have hstamp : Keyed.Alike Same
      [("timestamp", .text (timeText now)), ("level", .text e.level.name), ("message", e.message)]
      [("timestamp", .text (timeText now')), ("level", .text e.level.name),
        ("message", e.message)] := by
    refine .cons ⟨rfl, ?_⟩ (Keyed.Alike.refl hrefl _)
    show Json.fault? (.text _) _ = Json.fault? (.text _) _
    rw [Json.fault?_text, Json.fault?_text]
  have hall := hstamp.insertAll (Keyed.Alike.refl hrefl e.details)
  have hmembers : Keyed.Alike Same (e.members now correlation) (e.members now' correlation) := by
    unfold members
    cases correlation with
    | none => exact hall
    | some id =>
      dsimp only
      split
      · exact hall.insert (hrefl "correlation_id" id.value)
      · exact hall
  rw [fault?, fault?, fault?_ofMembers, fault?_ofMembers]
  generalize e.members now correlation = ms, e.members now' correlation = ms' at hmembers
  induction hmembers with
  | nil => rfl
  | cons hfirst _ ih => rw [List.findSome?_cons, List.findSome?_cons, hfirst.2, ih]

/-- An entry whose parts can be written, so that it can be written at any time and with any
correlation id. -/
structure Writable (e : Entry) : Prop where
  message : Json.fault? e.message (maxNesting - 1) = none
  details : ∀ detail ∈ e.details, Json.fault? detail.2 (maxNesting - 1) = none

/-- **An entry whose parts can be written** can be written. -/
theorem Writable.fault?_eq_none (h : e.Writable) (now : DateTime)
    (correlation : Option CorrelationId) : e.fault? now correlation = none := by
  rw [fault?, fault?_ofMembers, List.findSome?_eq_none_iff]
  refine forall_mem_members ?_ h.details fun id _ => id.writable
  simp only [List.forall_mem_cons, List.not_mem_nil, false_imp_iff, implies_true, and_true]
  exact ⟨Json.fault?_text _ _, Json.fault?_text _ _, h.message⟩

/-- **An entry all parts of which but one value can be written** has the fault of that value. -/
theorem fault?_eq_of_detail {name : Text} {v : Value}
    (hmessage : Json.fault? e.message (maxNesting - 1) = none)
    (hdetails : ∀ detail ∈ e.details,
      Json.fault? detail.2 (maxNesting - 1) = none ∨ detail.2 = v)
    (hget : (e.members now none).get? name = some v) (hname : ("correlation_id" : Text) ≠ name) :
    e.fault? now correlation = Json.fault? v (maxNesting - 1) := by
  have hthere : ∃ member ∈ e.members now correlation, member.2 = v := by
    rw [← get?_members e now correlation hname] at hget
    obtain ⟨member, hmember, -, hvalue⟩ := Keyed.exists_mem_of_get? hget
    exact ⟨member, hmember, hvalue⟩
  have hall : ∀ member ∈ e.members now correlation,
      Json.fault? member.2 (maxNesting - 1) = none ∨ member.2 = v := by
    refine forall_mem_members ?_ hdetails fun id _ => .inl id.writable
    simp only [List.forall_mem_cons, List.not_mem_nil, false_imp_iff, implies_true, and_true]
    exact ⟨.inl (Json.fault?_text _ _), .inl (Json.fault?_text _ _), .inl hmessage⟩
  rw [fault?, fault?_ofMembers]
  cases hfound : (e.members now correlation).findSome?
      (fun member => Json.fault? member.2 (maxNesting - 1)) with
  | none =>
    obtain ⟨member, hmember, rfl⟩ := hthere
    exact (List.findSome?_eq_none_iff.1 hfound member hmember).symm
  | some f =>
    obtain ⟨member, hmember, hf⟩ := List.exists_of_findSome?_eq_some hfound
    rcases hall member hmember with hnone | rfl
    · exact nomatch hnone.symm.trans hf
    · exact hf.symm

/-! ### Lines -/

/-- A line is read back as the image of the record of an entry. -/
def ReadFrom (e : Entry) (now : DateTime) (correlation : Option CorrelationId) (line : String) :
    Prop :=
  Json.read line = .ok (Json.image (.ofMembers (e.members now correlation)))

/-- **The line of an entry that can be written is read back** as the image of its record. -/
theorem read_line (h : e.fault? now correlation = none) :
    e.ReadFrom now correlation (e.line now correlation) :=
  Json.read_write h

/-- **The line of an entry whose details have names of characters is read back as a record** that
has the images of the values of the entry under their names. -/
theorem read_line_members (h : e.fault? now correlation = none)
    (hnames : ∀ detail ∈ e.details, ∃ cs, detail.1 = .ofChars cs) :
    ∃ members : Members, Json.read (e.line now correlation) = .ok (.ofMembers members) ∧
      ∀ name, members.get? name = ((e.members now correlation).get? name).map Json.image := by
  have hall : ∀ member ∈ e.members now correlation, ∃ cs, member.1 = .ofChars cs := by
    refine forall_mem_members ?_ hnames fun _ _ => ⟨_, rfl⟩
    simp only [List.forall_mem_cons, List.not_mem_nil, false_imp_iff, implies_true, and_true]
    exact ⟨⟨_, rfl⟩, ⟨_, rfl⟩, ⟨_, rfl⟩⟩
  have hread := read_line h
  rw [ReadFrom, Json.image_ofMembers (e.nodup_members now correlation) hall] at hread
  exact ⟨_, hread, Keyed.get?_map_value Json.image _⟩

/-- The line of an entry is printable. -/
theorem plain_line (e : Entry) (now : DateTime) (correlation : Option CorrelationId) :
    ∀ c ∈ (e.line now correlation).toList, Json.IsPlainAscii c := by
  rw [line, Json.write, String.toList_ofList]
  exact Json.plain_valueChars _

end Entry

end TableClient.Log
