import TableClient.Proofs.Config.Layers
import TableClient.Proofs.Decimal.Order
import TableClient.Proofs.Log.Writing

set_option relaxedAutoImplicit false
set_option autoImplicit false

/-!
# The events of loading

What happens while settings are loaded is logged later, and none of it is lost then. The details of
the events are texts, truth values, counts, the values of variables and the names of the groups of
settings. No name is too deep in a list to be written, and the value of a variable is never an
integer that is too long, since its digits stand in the variable.

## Main definitions

* `TableClient.Entries.TextKeyed` — entries whose keys are texts.

## Main results

* `TableClient.Decimal.hasNumeral_of_lenientInt?` — an integer that is read from a text can be
  written.
* `TableClient.Json.textKeyed_readChars` — the keys of a record that is read from JSON text.
* `TableClient.Config.recordable_of_load` — the events of loading can be logged.
-/

/-! ### Integers that are read -/

namespace TableClient.Decimal

/-- Digits denote a number of at most as many digits. -/
lemma toNatFrom?_lt {acc n : Nat} {cs : List Char} (h : Numeral.toNatFrom? acc cs = some n) :
    n < (acc + 1) * 10 ^ cs.length := by
  induction cs generalizing acc with
  | nil =>
    obtain rfl := Option.some.inj h
    simp
  | cons c cs ih =>
    obtain ⟨d, hd, hrest⟩ := Option.bind_eq_some_iff.1 h
    have hdigit : d < 10 := by
      unfold Numeral.digitValue? at hd
      split at hd
      · rename_i hc
        obtain rfl := Option.some.inj hd
        have hnine : c.toNat ≤ 57 := hc.2
        omega
      · cases hd
    calc n < (acc * 10 + d + 1) * 10 ^ cs.length := ih hrest
      _ ≤ ((acc + 1) * 10) * 10 ^ cs.length := Nat.mul_le_mul_right _ (by omega)
      _ = (acc + 1) * 10 ^ (c :: cs).length := by
        rw [List.length_cons, Nat.pow_succ, Nat.mul_assoc, Nat.mul_comm 10]

/-- The numeral of what digits denote is no longer than they are. -/
lemma length_ofNat_value_le {cs : List Char} (hne : cs ≠ []) (h : ∀ c ∈ cs, isDigit c = true) :
    (Numeral.ofNat (value cs)).length ≤ cs.length := by
  obtain ⟨k, hk⟩ := Nat.exists_eq_add_one.2 (List.length_pos_iff.2 hne)
  have hvalue := toNatFrom?_lt (toNatFrom?_eq_value h)
  rw [Nat.zero_add, Nat.one_mul, hk] at hvalue
  rw [hk, Numeral.length_ofNat_le_iff]
  exact hvalue

/-- **An integer that is read from a text can be written**: both may have as many digits. -/
theorem hasNumeral_of_lenientInt? {t : Text} {n : Int} (h : lenientInt? t = some n) :
    Value.hasNumeral n = true := by
  obtain ⟨cs, -, hint⟩ := Option.bind_eq_some_iff.1 h
  dsimp only at hint
  generalize splitSign cs = parts at hint
  obtain ⟨negative, digits⟩ := parts
  split at hint
  · rename_i hdigits
    obtain ⟨hne, hall, hlength⟩ := hdigits
    have hshort := length_ofNat_value_le hne (List.all_eq_true.1 hall)
    have habs : n.natAbs = value digits := by
      obtain rfl := Option.some.inj hint
      cases negative
      · exact Int.natAbs_natCast _
      · exact (Int.natAbs_neg _).trans (Int.natAbs_natCast _)
    rw [Value.hasNumeral, habs]
    exact decide_eq_true (hshort.trans hlength)
  · cases hint

end TableClient.Decimal

/-! ### Texts as keys -/

namespace TableClient.Entries

/-- Entries whose keys are texts. -/
def TextKeyed (es : Entries) : Prop := ∀ key ∈ es.keys, ∃ t, key = .text t

variable {es tree tree' base upper : Entries}

/-- Setting an entry under a text keeps the keys texts. -/
lemma TextKeyed.insert (h : es.TextKeyed) (t : Text) (v : Value) :
    TextKeyed (es.insert (.text t) v) := by
  intro key hkey
  rw [Keyed.keys_insert] at hkey
  split at hkey
  · exact h key hkey
  · rcases List.mem_append.1 hkey with hkey | hkey
    · exact h key hkey
    · exact ⟨t, List.mem_singleton.1 hkey⟩

/-- Laying entries over others keeps the keys texts if they are so in both. -/
lemma TextKeyed.merge (hbase : base.TextKeyed) (hupper : upper.TextKeyed) :
    TextKeyed (Config.merge base upper) := by
  unfold Config.merge
  induction upper generalizing base with
  | nil => exact hbase
  | cons e upper ih =>
    obtain ⟨key, v⟩ := e
    obtain ⟨⟨t, rfl⟩, hrest⟩ := List.forall_mem_cons.1 hupper
    exact ih (hbase.insert t _) hrest

/-- There are no keys in the record without entries. -/
lemma textKeyed_nil : TextKeyed [] := List.forall_mem_nil _

/-- Setting values at paths keeps the keys texts. -/
lemma TextKeyed.setAll {changes : List (List Text × Value)} (h : tree.TextKeyed)
    (hset : Config.SetAll tree changes tree') : tree'.TextKeyed := by
  induction hset with
  | nil => exact h
  | cons hfirst _ ih =>
    refine ih ?_
    cases hfirst <;> exact TextKeyed.insert h _ _

/-- A list of keys that are texts can be written. -/
lemma TextKeyed.fault?_keys (h : es.TextKeyed) (levels : Nat) :
    Json.fault? (.list es.keys) (levels + 1) = none := by
  refine Json.fault?_list_eq_none.2 ⟨levels, rfl, fun key hkey => ?_⟩
  obtain ⟨t, rfl⟩ := h key hkey
  exact Json.fault?_text t levels

end TableClient.Entries

namespace TableClient.Json

open Entries (TextKeyed)

/-- Entries that are read behind others whose keys are texts. -/
lemma textKeyed_readEntries {steps levels : Nat} {es es' : Entries} {cs rest : List Char}
    (hes : es.TextKeyed) (h : readEntries steps levels es cs = .ok (es', rest)) :
    es'.TextKeyed := by
  induction steps generalizing es cs with
  | zero =>
    rw [readEntries] at h
    cases h
  | succ steps ih =>
    unfold readEntries at h
    split at h
    · obtain ⟨⟨key, rest₁⟩, -, hrest₁⟩ := bind_eq_ok_iff.1 h
      dsimp only at hrest₁
      split at hrest₁
      · obtain ⟨⟨v, rest₂⟩, -, hrest₂⟩ := bind_eq_ok_iff.1 hrest₁
        dsimp only at hrest₂
        split at hrest₂
        · cases hrest₂
          exact hes.insert key v
        · exact ih (hes.insert key v) hrest₂
        · cases hrest₂
      · cases hrest₁
    · cases h

/-- **The keys of a record that is read from JSON text are texts.** -/
theorem textKeyed_readChars {cs : List Char} {es : Entries} (h : readChars cs = .ok (.record es)) :
    es.TextKeyed := by
  obtain ⟨⟨v, rest⟩, hread, hrest⟩ := bind_eq_ok_iff.1 h
  dsimp only at hrest
  split at hrest
  · cases hrest
    unfold readValue at hread
    split at hread
    · obtain ⟨_, -, hv⟩ := map_eq_ok_iff.1 hread
      cases hv
    · cases hread
    · cases hread
    · split at hread
      · cases hread
      · obtain ⟨_, -, hv⟩ := map_eq_ok_iff.1 hread
        cases hv
    · split at hread
      · cases hread
        exact Entries.textKeyed_nil
      · obtain ⟨⟨es', rest'⟩, hes, hv⟩ := map_eq_ok_iff.1 hread
        cases hv
        exact textKeyed_readEntries Entries.textKeyed_nil hes
    · split at hread
      · rename_i found hfound
        cases hread
        exact absurd rfl (not_record_of_readName hfound es)
      · exact absurd rfl (not_record_of_readNumber hread es)
  · cases hrest

end TableClient.Json

/-! ### Events -/

namespace TableClient.Config

variable {file : FileContent} {env : Environment} {c : Config}

/-- The value that the text of a variable stands for can be written. -/
lemma fault?_convert (t : Text) (levels : Nat) : Json.fault? (convert t) levels = none := by
  unfold convert
  split
  · exact Json.fault?_bool _ levels
  · split
    · rename_i n hn
      have hint : Decimal.lenientInt? t = some n := by
        unfold dotlessInt? at hn
        split at hn
        · cases hn
        · exact hn
      rw [Json.fault?_int]
      exact Json.numeralFault?_eq_none.2 (Decimal.hasNumeral_of_lenientInt? hint)
    · split
      · exact Json.fault?_float _ levels
      · exact Json.fault?_text t levels

/-- The keys of the defaults with the file laid over them are texts. -/
lemma textKeyed_layer (file : FileContent) : file.layer.TextKeyed := by
  have hdefaults : defaults.TextKeyed := by
    intro key hkey
    rcases List.mem_cons.1 hkey with rfl | hkey
    · exact ⟨_, rfl⟩
    · exact ⟨_, List.mem_singleton.1 hkey⟩
  cases hrecord : file.record? with
  | none =>
    rw [FileContent.layer_of_none hrecord]
    exact hdefaults
  | some entries =>
    obtain ⟨cs, hcs⟩ := FileContent.exists_readChars hrecord
    rw [FileContent.layer_of_record hrecord]
    exact hdefaults.merge (Json.textKeyed_readChars hcs)

/-- The event of the file can be logged. -/
lemma recordable_fileLayer {tree : Entries} {e : Event} (h : fileLayer file = .ok (tree, e)) :
    Log.Recordable e.details := by
  have hrefused (error : Text) : Log.Recordable (fileRefused error).details :=
    ⟨rfl, by simp [fileRefused]⟩
  cases file with
  | absent =>
    cases h
    exact ⟨rfl, by simp⟩
  | directory error =>
    cases h
    exact hrefused error
  | bytes bs error =>
    cases hdecoded : Text.Utf8.decode? bs with
    | none =>
      rw [fileLayer, fileValue, hdecoded] at h
      cases h
    | some cs =>
      rw [fileLayer_bytes hdecoded] at h
      split at h
      · rename_i entries hread
        cases h
        have hkeys := (Json.textKeyed_readChars hread).fault?_keys (maxNesting - 2)
        exact ⟨rfl, List.forall_mem_cons.2
          ⟨Json.fault?_text _ _, List.forall_mem_singleton.2 hkeys⟩⟩
      · cases h
      · cases h
        exact hrefused error
      · cases h
      · cases h

/-- The events of variables can be logged. -/
lemma recordable_applyVariables {rows : List (String × String)} {tree tree' : Entries}
    {events : List Event} (h : applyVariables env rows tree = .ok (tree', events)) :
    ∀ e ∈ events, Log.Recordable e.details := by
  induction rows generalizing tree events with
  | nil =>
    cases h
    exact List.forall_mem_nil _
  | cons row rows ih =>
    obtain ⟨envVar, path⟩ := row
    rw [applyVariables] at h
    split at h
    · exact ih h
    · rename_i t _
      dsimp only at h
      split at h
      · cases h
      · obtain ⟨⟨_, rest⟩, hrest, heq⟩ := map_eq_ok_iff.1 h
        cases heq
        exact List.forall_mem_cons.2 ⟨⟨rfl, by simp [fault?_convert]⟩, ih hrest⟩

/-- There are no more secrets than variables for them. -/
lemma hasNumeral_length_secretsOf (env : Environment) :
    Value.hasNumeral (secretsOf env).length = true := by
  have hlength : (secretsOf env).length ≤ 3 := List.length_filterMap_le ..
  have hsmall : (secretsOf env).length < 10 := by omega
  simp [Value.hasNumeral, Numeral.ofNat, hsmall, Decimal.maxIntDigits]

/-- **The events of loading can be logged.**

**Proof sketch.** The names of the groups are texts in the defaults and in a file that is read as
JSON text, and variables set their values at paths of texts (`textKeyed_layer`,
`Entries.TextKeyed.setAll`); the values of variables have numerals, if they are integers
(`fault?_convert`). -/
theorem recordable_of_load (h : load file env = .ok c) :
    ∀ e ∈ c.pending, Log.Recordable e.details := by
  have htree := (textKeyed_layer file).setAll (of_load h).2.1
  obtain ⟨⟨tree, e⟩, hfile, hrest⟩ := bind_eq_ok_iff.1 h
  obtain ⟨⟨tree', events⟩, happlied, hc⟩ := bind_eq_ok_iff.1 hrest
  cases hc
  have hcount := Json.numeralFault?_eq_none.2 (hasNumeral_length_secretsOf env)
  have hnames : Json.fault? (.list ((secretsOf env).keys.map .text)) (maxNesting - 1) = none :=
    Json.fault?_list_eq_none.2 ⟨maxNesting - 2, rfl, List.forall_mem_map.2 fun _ _ =>
      Json.fault?_text _ _⟩
  have hsecrets : Log.Recordable (secretsEvent (secretsOf env)).details :=
    ⟨rfl, List.forall_mem_cons.2 ⟨(Json.fault?_int _ _).trans hcount,
      List.forall_mem_singleton.2 hnames⟩⟩
  have hloaded : Log.Recordable (loadedEvent (secretsOf env) tree').details :=
    ⟨rfl, List.forall_mem_cons.2 ⟨Json.fault?_text _ _, List.forall_mem_cons.2
      ⟨(Json.fault?_int _ _).trans hcount,
        List.forall_mem_singleton.2 (htree.fault?_keys (maxNesting - 2))⟩⟩⟩
  refine List.forall_mem_append.2 ⟨?_, List.forall_mem_singleton.2 hloaded⟩
  exact List.forall_mem_cons.2 ⟨recordable_fileLayer hfile,
    List.forall_mem_cons.2 ⟨hsecrets, recordable_applyVariables happlied⟩⟩

end TableClient.Config
