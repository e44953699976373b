import TableClient.Proofs.Client.Addresses
import TableClient.Proofs.TableName

set_option relaxedAutoImplicit false
set_option autoImplicit false

/-!
# Warnings about tables

A client looks at the name of a table before each call on it, and warns when the name does not
follow the convention. As names are their own segments of a path, what it does not warn about ought
to stand in the address of the table as it is. The one exception is a name with a line feed behind
it: it passes as a name, and nothing is said about it, but the line feed is escaped in the address.

## Main definitions

* `TableClient.Client.Connection.Warns` — the tables that a client warns about.
* `TableClient.Client.Connection.Vets` — what the check of a name is meant to achieve.

## Main results

* `TableClient.Client.Connection.tableWarning_mem_iff` — when the entries of an operation have a
  warning.
* `TableClient.Client.Connection.vets_iff` — the tables that are checked as meant.
-/

namespace TableClient.Client

open Log (Component Entry)
open TableName (isConventional plainPattern IsName IsTerminated IsOwnSegment)

/-- The warning about a table. -/
def tableWarning (table : Text) : Entry :=
  Component.requests.entry .warning "unusual_table_name"
    [("table", .text table),
     ("details", .text "Table name does not follow ServiceNow naming conventions")]

/-- A table is warned about when its name is unconventional. -/
lemma warnings_eq (table : Text) :
    warnings table = if isConventional table then [] else [tableWarning table] := rfl

/-- The entry of a query is no warning. -/
lemma level_of_mem_builtEntries {query : Value} {e : Entry} (h : e ∈ builtEntries query) :
    e.level ≠ .warning := by
  cases query with
  | query tokens field =>
    dsimp only [builtEntries] at h
    split at h
    · cases h
    · rw [List.mem_singleton.1 h]
      exact nofun
  | _ => cases h

/-- The entry that closes a request is no warning. -/
lemma level_of_mem_closing? {r : Request} {outcome : Outcome} {e : Entry}
    (h : e ∈ r.closing? outcome) : e.level ≠ .warning := by
  cases outcome with
  | response response =>
    obtain rfl := Option.some.inj h
    split <;> exact nofun
  | failure f =>
    dsimp only [Request.closing?] at h
    split at h
    · obtain rfl := Option.some.inj h
      exact nofun
    · cases h

namespace Connection

variable {c : Connection} {o : Operation} {ch : Channel} {t : Text} {params : Value}

/-- The entries of a call are no warnings. -/
lemma level_of_mem_callFootprint {j : Log.Journal} {k : Call} {outcome : Outcome} {e : Entry}
    (h : e ∈ (c.callFootprint j k outcome).entries) : e.level ≠ .warning := by
  unfold callFootprint at h
  split at h
  · rcases List.mem_cons.1 h with rfl | h
    · exact nofun
    · exact level_of_mem_closing? (Option.mem_toList.1 (List.mem_filter.1 h).1)
  · cases h

/-- The entries of an operation on a table whose parameters are built. -/
lemma entries_footprint (ht : o.table = .text t) (hparams : o.params = .ok params) :
    (c.footprint ch o).entries =
      ch.journal.admitted (builtEntries o.query) ++
        (warnings t ++ ([(o.call params).started t] ++
          (c.callFootprint ch.journal (o.call params) ch.next).entries ++
            [(o.call params).completed ch t])) := by
  rw [footprint, hparams]
  dsimp only
  rw [tableFootprint, (Operation.call_of_table ht params).1]
  rfl

/-- **An operation warns about its table** exactly when the name of the table is unconventional, as
soon as its parameters are built. -/
theorem tableWarning_mem_iff (ht : o.table = .text t) (hparams : o.params = .ok params) :
    tableWarning t ∈ (c.footprint ch o).entries ↔ isConventional t = false := by
  -- a warning is told from all other entries by its level
  have hother {e : Entry} (h : e.level ≠ .warning) : tableWarning t ≠ e := by
    rintro rfl
    exact h rfl
  have hbuilt : tableWarning t ∉ ch.journal.admitted (builtEntries o.query) := fun h =>
    level_of_mem_builtEntries (List.mem_filter.1 h).1 rfl
  have hcall : tableWarning t ∉
      (c.callFootprint ch.journal (o.call params) ch.next).entries := fun h =>
    level_of_mem_callFootprint h rfl
  have hstarted : tableWarning t ≠ (o.call params).started t := hother nofun
  have hcompleted : tableWarning t ≠ (o.call params).completed ch t := hother nofun
  rw [entries_footprint ht hparams]
  simp only [List.mem_append, List.mem_singleton, hbuilt, hcall, hstarted, hcompleted, or_false,
    false_or]
  rw [warnings_eq]
  split <;> simp [*]

/-- A client warns about a table: every operation on it does, once its parameters are built. -/
def Warns (c : Connection) (t : Text) : Prop :=
  ∀ (o : Operation) (params : Value) (ch : Channel), o.table = .text t → o.params = .ok params →
    tableWarning t ∈ (c.footprint ch o).entries

/-- A client warns about the tables with unconventional names. -/
lemma warns_iff : c.Warns t ↔ isConventional t = false := by
  constructor
  · intro h
    let o : Operation := .fetch (.text t) .null
    let ch : Channel := .fresh [] .plain
    have hparams : o.params = .ok .null := rfl
    exact (tableWarning_mem_iff rfl hparams).1 (h o .null ch rfl hparams)
  · intro h o params ch ht hparams
    exact (tableWarning_mem_iff ht hparams).2 h

/-- What the check of the name of a table is meant to achieve. -/
structure Vets (c : Connection) (t : Text) : Prop where
  /-- What is accepted is a name. -/
  accepted : isConventional t = true ↔ IsName t
  /-- What is accepted stands in the address of the table as it is. -/
  spared : isConventional t = true → IsOwnSegment t
  /-- What is escaped in the address of the table, or has no address, is warned about. -/
  warned : ¬ IsOwnSegment t → c.Warns t

/-- **Tables are checked as meant** unless their name has a line feed behind it. What is accepted is
what fits the pattern of names alone, without the alternative for custom tables. A name with a line
feed behind it is the only text that is accepted and yet escaped in the address of the table, and
the only one that is escaped without a warning.

**Proof sketch.** The convention accepts names, with a line feed behind them or without
(`TableName.isConventional_iff`), and names are their own segments
(`TableName.IsName.isOwnSegment`). The warnings of an operation are told from its other entries by
their level (`tableWarning_mem_iff`). -/
theorem vets_iff (c : Connection) (t : Text) :
    isConventional t = plainPattern.fits t ∧ (c.Vets t ↔ ¬ IsTerminated t) ∧
      (isConventional t = true ∧ ¬ IsOwnSegment t ↔ IsTerminated t) ∧
      (¬ IsOwnSegment t ∧ ¬ c.Warns t ↔ IsTerminated t) := by
  have hescaped : isConventional t = true ∧ ¬ IsOwnSegment t ↔ IsTerminated t := by
    constructor
    · rintro ⟨haccepted, hescaped⟩
      exact (TableName.isConventional_iff.1 haccepted).resolve_left fun h =>
        hescaped h.isOwnSegment
    · intro h
      exact ⟨TableName.isConventional_iff.2 (.inr h), h.not_isOwnSegment⟩
  have hsilent : ¬ IsOwnSegment t ∧ ¬ c.Warns t ↔ IsTerminated t := by
    rw [warns_iff, Bool.not_eq_false, and_comm]
    exact hescaped
  refine ⟨TableName.isConventional_eq t, ⟨fun h hterminated => ?_, fun h => ?_⟩, hescaped, hsilent⟩
  · exact TableName.isConventional_iff_isName.1 h.accepted hterminated
  · refine ⟨TableName.isConventional_iff_isName.2 h, fun haccepted => ?_, fun hown => ?_⟩
    · by_contra hown
      exact h (hescaped.1 ⟨haccepted, hown⟩)
    · by_contra hwarns
      exact h (hsilent.1 ⟨hown, hwarns⟩)

/-- The name `incident` with a line feed behind it is accepted as a name, and it is not warned
about, although its line feed is escaped in the address of the table. -/
theorem line_feed_overlooked :
    let t : Text := "incident\n"
    isConventional t = true ∧ ¬ IsName t ∧ Url.ofValues [.text t] = .ok "/incident%0A" ∧
      ¬ plain.Warns t ∧ ¬ plain.Vets t := by
  intro t
  have haccepted : isConventional t = true := by decide
  have hname : ¬ IsName t := by
    intro h
    exact h.lineFeed_notMem (by decide)
  refine ⟨haccepted, hname, by decide +kernel, ?_, fun h => hname (h.accepted.1 haccepted)⟩
  rw [warns_iff, haccepted]
  exact nofun

end Connection

end TableClient.Client
