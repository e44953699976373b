import Mathlib.Logic.Basic
import TableClient.Json.Writer
import TableClient.Value.Key

set_option relaxedAutoImplicit false
set_option autoImplicit false

/-!
# Values that can be written

A list, tuple or record can be written when one level of nesting is left for it and its parts can be
written on the levels below; the fault of the whole is that of its first part which has one. Values
that JSON text stands for as they are have no other fault than that they are nested too deeply.

## Main definitions

* `TableClient.Json.nesting` — the levels of lists and records in a value.
* `TableClient.Json.Faithful` — the values that JSON text stands for as they are.

## Main results

* `TableClient.Json.nested_induction` — induction over the parts of values.
* `TableClient.Json.fault?_ofMembers` — the fault of a record of named values.
* `TableClient.Json.Faithful.fault?_eq` — values that are nested too deeply.
-/

namespace TableClient.Json

/-! ### Parts of values -/

/-- Whether a value has parts that are written one by one. -/
def hasParts : Value → Bool
  | .list _ | .tuple _ | .record _ => true
  | _ => false

/-- **Induction over the parts of values**: what holds of the values without parts, and of those
with parts when it holds of all their parts, holds of all values. -/
@[elab_as_elim]
theorem nested_induction {motive : Value → Prop} (v : Value)
    (list : ∀ items, (∀ w ∈ items, motive w) → motive (.list items))
    (tuple : ∀ items, (∀ w ∈ items, motive w) → motive (.tuple items))
    (record : ∀ entries : Entries, (∀ e ∈ entries, motive e.2) → motive (.record entries))
    (simple : ∀ v, hasParts v = false → motive v) : motive v := by
  refine @Value.rec motive (fun items => ∀ w ∈ items, motive w)
    (fun entries => ∀ e ∈ entries, motive e.2) (fun e => motive e.2) ?_ ?_ ?_ ?_ ?_ list tuple
    record ?_ ?_ ?_ ?_ ?_ ?_
    (List.forall_mem_nil _) (fun _ _ h hs => List.forall_mem_cons.2 ⟨h, hs⟩)
    (List.forall_mem_nil _) (fun _ _ h hs => List.forall_mem_cons.2 ⟨h, hs⟩) (fun _ _ _ h => h) v
  all_goals
    intros
    exact simple _ rfl

/-- The fault of several values is that of the first one which has one. -/
lemma itemsFault?_eq (vs : List Value) (levels : Nat) :
    itemsFault? vs levels = vs.findSome? (fault? · levels) := by
  induction vs with
  | nil => rfl
  | cons v vs ih =>
    rw [itemsFault?, ih, List.findSome?_cons]
    cases fault? v levels <;> rfl

/-- The fault of entries is that of the first key or value which has one. -/
lemma entriesFault?_eq (es : Entries) (levels : Nat) :
    entriesFault? es levels = es.findSome? fun e => (keyFault? e.1).or (fault? e.2 levels) := by
  induction es with
  | nil => rfl
  | cons e es ih =>
    obtain ⟨key, v⟩ := e
    rw [entriesFault?, ih, List.findSome?_cons]
    dsimp only
    cases (keyFault? key).or (fault? v levels) <;> rfl

variable {items : List Value} {entries : Entries} {levels : Nat}

/-- A list can be written when a level is left for it and its items can be written below. -/
lemma fault?_list_eq_none :
    fault? (.list items) levels = none ↔
      ∃ below, levels = below + 1 ∧ ∀ w ∈ items, fault? w below = none := by
  cases levels with
  | zero => simp [fault?]
  | succ levels => simp [fault?, itemsFault?_eq]

/-- A tuple can be written when the list of its items can be. -/
lemma fault?_tuple (items : List Value) (levels : Nat) :
    fault? (.tuple items) levels = fault? (.list items) levels := by
  cases levels <;> simp only [fault?]

/-- A record can be written when a level is left for it, names can be made of its keys, and its
values can be written below. -/
lemma fault?_record_eq_none :
    fault? (.record entries) levels = none ↔
      ∃ below, levels = below + 1 ∧
        ∀ e ∈ entries, keyFault? e.1 = none ∧ fault? e.2 below = none := by
  cases levels with
  | zero => simp [fault?]
  | succ levels => simp [fault?, entriesFault?_eq]

/-- Simple values that can always be written. -/
@[simp] lemma fault?_text (t : Text) (levels : Nat) : fault? (.text t) levels = none := rfl

@[simp] lemma fault?_null (levels : Nat) : fault? .null levels = none := rfl

@[simp] lemma fault?_bool (b : Bool) (levels : Nat) : fault? (.bool b) levels = none := rfl

@[simp] lemma fault?_float (x : Binary64) (levels : Nat) : fault? (.float x) levels = none := rfl

/-- An integer can be written when it has a numeral. -/
@[simp] lemma fault?_int (n : Int) (levels : Nat) :
    fault? (.int n) levels = Value.numeralFault? n := rfl

/-- Which integers have a numeral. -/
lemma numeralFault?_eq_none {n : Int} :
    Value.numeralFault? n = none ↔ Value.hasNumeral n = true := by
  unfold Value.numeralFault?
  split <;> simp_all

/-- **The fault of a record of named values** is that of the first value which has one. -/
theorem fault?_ofMembers (members : Members) (levels : Nat) :
    fault? (.ofMembers members) (levels + 1) =
      members.findSome? fun member => fault? member.2 levels := by
  rw [Value.ofMembers, fault?, entriesFault?_eq, List.findSome?_map]
  rfl

/-! ### Nesting -/

mutual

/-- The levels of lists, tuples and records in a value. -/
def nesting : Value → Nat
  | .list items | .tuple items => itemsNesting items + 1
  | .record entries => entriesNesting entries + 1
  | _ => 0

/-- The most levels in one of several values. -/
def itemsNesting : List Value → Nat
  | [] => 0
  | v :: vs => max (nesting v) (itemsNesting vs)

/-- The most levels in the value of one of several entries. -/
def entriesNesting : List (Value × Value) → Nat
  | [] => 0
  | (_, v) :: es => max (nesting v) (entriesNesting es)

end

/-- The values that JSON text stands for as they are: null, truth values, integers that have a
numeral, floating-point numbers, texts of characters, and lists and records of such values. -/
inductive Faithful : Value → Prop where
  | null : Faithful .null
  | bool (b : Bool) : Faithful (.bool b)
  | int {n : Int} : Value.hasNumeral n = true → Faithful (.int n)
  | float (x : Binary64) : Faithful (.float x)
  /-- A text without surrogates. -/
  | text (cs : List Char) : Faithful (.text (.ofChars cs))
  | list {items : List Value} : (∀ v ∈ items, Faithful v) → Faithful (.list items)
  /-- A record with one entry a key, and texts without surrogates as keys. -/
  | record {entries : Entries} :
    entries.keys.Pairwise (fun k k' => (k == k') = false) →
    (∀ e ∈ entries, ∃ cs, e.1 = .text (.ofChars cs)) →
    (∀ e ∈ entries, Faithful e.2) → Faithful (.record entries)

/-- The fault of a value that is nested too deeply for the levels that are left. -/
def depthFault? (needed levels : Nat) : Option WriteFault :=
  if needed ≤ levels then none else some .tooDeep

/-- Parts are nested too deeply when one of them is. -/
lemma depthFault?_max (m n levels : Nat) :
    depthFault? (max m n) levels = (depthFault? m levels).or (depthFault? n levels) := by
  unfold depthFault?
  by_cases hm : m ≤ levels
  · rw [if_pos hm, Option.none_or]
    exact if_congr (by omega) rfl rfl
  · rw [if_neg hm, if_neg (by omega)]
    rfl

/-- A value with parts needs one level more than they do. -/
lemma depthFault?_succ (n levels : Nat) : depthFault? (n + 1) (levels + 1) = depthFault? n levels :=
  if_congr Nat.succ_le_succ_iff rfl rfl

/-- Several values that can only be nested too deeply can together only be nested too deeply. -/
lemma itemsFault?_of_depth
    (h : ∀ w ∈ items, ∀ levels, fault? w levels = depthFault? (nesting w) levels) (levels : Nat) :
    itemsFault? items levels = depthFault? (itemsNesting items) levels := by
  induction items with
  | nil => exact (if_pos (Nat.zero_le levels)).symm
  | cons v vs ih =>
    obtain ⟨hv, hvs⟩ := List.forall_mem_cons.1 h
    rw [itemsFault?, itemsNesting, hv, ih hvs, depthFault?_max]

/-- Entries with texts as keys whose values can only be nested too deeply can together only be
nested too deeply. -/
lemma entriesFault?_of_depth (hkeys : ∀ e ∈ entries, ∃ t, e.1 = .text t)
    (h : ∀ e ∈ entries, ∀ levels, fault? e.2 levels = depthFault? (nesting e.2) levels)
    (levels : Nat) :
    entriesFault? entries levels = depthFault? (entriesNesting entries) levels := by
  induction entries with
  | nil => exact (if_pos (Nat.zero_le levels)).symm
  | cons e es ih =>
    obtain ⟨key, v⟩ := e
    obtain ⟨⟨t, rfl : key = .text t⟩, hkeys'⟩ := List.forall_mem_cons.1 hkeys
    obtain ⟨hv, hes⟩ := List.forall_mem_cons.1 h
    rw [entriesFault?, entriesNesting, hv, ih hkeys' hes, depthFault?_max]
    rfl

/-- **Values that JSON text stands for as they are** have no other fault than that they are nested
too deeply. -/
theorem Faithful.fault?_eq {v : Value} (h : Faithful v) (levels : Nat) :
    fault? v levels = depthFault? (nesting v) levels := by
  induction h generalizing levels with
  | null | bool _ | float _ | text _ => simp [fault?, Value.showFault?, nesting, depthFault?]
  | int hn => simp [numeralFault?_eq_none.2 hn, nesting, depthFault?]
  | @list items _ ih =>
    rw [nesting]
    cases levels with
    | zero => rfl
    | succ levels => rw [fault?, itemsFault?_of_depth ih, depthFault?_succ]
  | @record entries _ hkeys _ ih =>
    rw [nesting]
    cases levels with
    | zero => rfl
    | succ levels =>
      have htexts : ∀ e ∈ entries, ∃ t, e.1 = .text t := fun e he =>
        (hkeys e he).imp' Text.ofChars fun _ h => h
      rw [fault?, entriesFault?_of_depth htexts ih, depthFault?_succ]

end TableClient.Json
