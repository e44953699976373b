import TableClient.Proofs.Keyed
import TableClient.Value.Key

set_option relaxedAutoImplicit false
set_option autoImplicit false

/-!
# What keys count as

Two values are the same key when both count as the same: a text as itself, a number as its integer
if it has one, a date-time with an offset as its instant, a tuple as what its items count as. Values
that count as nothing are the same key as no value, themselves included. So being the same key is
symmetric and transitive.

## Main definitions

* `TableClient.Value.KeyClass`, `TableClient.Value.keyClass?` — what a value counts as when it is a
  key.

## Main results

* `TableClient.Value.same_iff` — values are the same key when they count as the same.
* `TableClient.Value.instPartialEquivBEq` — being the same key is symmetric and transitive.
-/

namespace TableClient.Value

/-- What a key counts as. -/
inductive KeyClass where
  | null
  | text (t : Text)
  | integer (n : Int)
  /-- A number that is no integer. -/
  | fraction (x : Binary64)
  | tuple (items : List KeyClass)
  | dateTime (hasOffset : Bool) (second : Int) (microsecond : Nat)
  | date (d : Date)
  | bytes (bs : List UInt8)
  | range (length : Nat)

mutual

/-- What a value counts as when it is a key, if it counts as anything. -/
def keyClass? : Value → Option KeyClass
  | null => some .null
  | bool b => some (.integer (if b then 1 else 0))
  | int n => some (.integer n)
  | float x => some (x.integer?.elim (.fraction x) .integer)
  | text t => some (.text t)
  | tuple items => (keyClasses? items).map .tuple
  | dateTime t => some (.dateTime t.offset.isSome t.utcSecond t.time.microsecond)
  | date d => some (.date d)
  | bytes bs => some (.bytes bs)
  | range stop => some (.range stop.toNat)
  | list _ | record _ | set _ | query _ _ => none

/-- What several values count as, one by one. -/
def keyClasses? : List Value → Option (List KeyClass)
  | [] => some []
  | v :: vs => (keyClass? v).bind fun k => (keyClasses? vs).map (k :: ·)

end

mutual

/-- **Values are the same key when they count as the same.**

**Proof sketch.** A value is the same as one of its own kind only, but for numbers, which count as
their integers if they have one. Tuples and lists go item by item. -/
theorem same_iff (v w : Value) :
    same v w = true ↔ ∃ k, w.keyClass? = some k ∧ v.keyClass? = some k := by
  cases v with
  | tuple vs =>
    cases w with
    | tuple ws => simp [same, keyClass?, allSame_iff vs ws]
    | float y => cases hy : y.integer? <;> simp [same, keyClass?, sameNumber, integer?, hy]
    | _ => simp [same, keyClass?, sameNumber, integer?]
  | float x =>
    cases w with
    | float y =>
      cases hx : x.integer? <;> cases hy : y.integer? <;>
        simp [same, keyClass?, sameNumber, integer?, hx, hy]
    | _ => cases hx : x.integer? <;> simp [same, keyClass?, sameNumber, integer?, hx]
  | dateTime s =>
    cases w with
    | dateTime t => simp [same, keyClass?, DateTime.same, and_assoc]
    | float y => cases hy : y.integer? <;> simp [same, keyClass?, sameNumber, integer?, hy]
    | _ => simp [same, keyClass?, sameNumber, integer?]
  | _ =>
    cases w with
    | float y => cases hy : y.integer? <;> simp [same, keyClass?, sameNumber, integer?, hy]
    | _ => simp [same, keyClass?, sameNumber, integer?]

/-- Lists of values are the same, item by item, when their items count as the same. -/
theorem allSame_iff (vs ws : List Value) :
    allSame vs ws = true ↔ ∃ ks, keyClasses? ws = some ks ∧ keyClasses? vs = some ks := by
  cases vs with
  | nil =>
    cases ws with
    | nil => simp [allSame, keyClasses?]
    | cons w ws => simp [allSame, keyClasses?, Option.bind_eq_some_iff]
  | cons v vs =>
    cases ws with
    | nil => simp [allSame, keyClasses?, Option.bind_eq_some_iff]
    | cons w ws =>
      rw [allSame, Bool.and_eq_true, same_iff v w, allSame_iff vs ws]
      simp only [keyClasses?, Option.bind_eq_some_iff, Option.map_eq_some_iff]
      constructor
      · rintro ⟨⟨k, hw, hv⟩, ks, hws, hvs⟩
        exact ⟨k :: ks, ⟨k, hw, ks, hws, rfl⟩, k, hv, ks, hvs, rfl⟩
      · rintro ⟨_, ⟨k, hw, ks, hws, rfl⟩, k', hv, ks', hvs, heq⟩
        obtain ⟨rfl, rfl⟩ := List.cons.inj heq
        exact ⟨⟨k', hw, hv⟩, ks', hws, hvs⟩

end

/-- **Being the same key is symmetric and transitive.** -/
instance instPartialEquivBEq : PartialEquivBEq Value where
  symm {v w} h := by
    obtain ⟨k, hw, hv⟩ := (same_iff v w).1 h
    exact (same_iff w v).2 ⟨k, hv, hw⟩
  trans {u v w} h h' := by
    obtain ⟨k, hv, hu⟩ := (same_iff u v).1 h
    obtain ⟨k', hw, hv'⟩ := (same_iff v w).1 h'
    obtain rfl := Option.some.inj (hv.symm.trans hv')
    exact (same_iff u w).2 ⟨k, hw, hu⟩

end TableClient.Value
