/-
Keys, values and lists of entries of sorted maps.

* **`keys_lt`** — numbers that are keys come in increasing order;
* **`find?_ofList`** — of the entries that a map was made from, the last under a key counts;
* **`ofList_entries`** — a map is made from its own entries.
-/
import Mathlib.Data.List.Nodup
import RpmProvision.SortedMap

namespace RpmProvision.SortedMap

open Std

variable {α β : Type} [Ord α]

/-! ### Keys and values -/

theorem pairwise_keys (m : SortedMap α β) : m.keys.Pairwise fun a b => compare a b = .lt :=
  List.pairwise_map.mpr m.increasing

/-- Numbers that are keys come in increasing order. -/
theorem keys_lt (m : SortedMap UInt64 β) : m.keys.Pairwise (· < ·) :=
  m.pairwise_keys.imp fun h => Std.compare_eq_lt.mp h

theorem nodup_keys [TransOrd α] (m : SortedMap α β) : m.keys.Nodup := by
  refine m.pairwise_keys.imp fun {a b} h heq => ?_
  rw [heq] at h
  simp at h

theorem nodup_entries [TransOrd α] (m : SortedMap α β) : m.entries.Nodup := m.nodup_keys.of_map

variable [TransOrd α] [LawfulEqOrd α]

theorem mem_keys_iff {m : SortedMap α β} {k : α} : k ∈ m.keys ↔ ∃ v, m.find? k = some v := by
  rw [keys, List.mem_map]
  constructor
  · rintro ⟨⟨k', v⟩, hmem, rfl⟩
    exact ⟨v, find?_eq_some_iff.mpr hmem⟩
  · rintro ⟨v, hv⟩
    exact ⟨(k, v), find?_eq_some_iff.mp hv, rfl⟩

theorem contains_iff_mem_keys {m : SortedMap α β} {k : α} : m.contains k ↔ k ∈ m.keys := by
  rw [mem_keys_iff, contains, Option.isSome_iff_exists]

theorem mem_keys_insert {m : SortedMap α β} {k k' : α} {v : β} :
    k' ∈ (m.insert k v).keys ↔ k' = k ∨ k' ∈ m.keys := by
  rw [mem_keys_iff, mem_keys_iff, find?_insert]
  by_cases h : k' = k
  · simp [h]
  · simp [h]

theorem mem_values_iff {m : SortedMap α β} {v : β} : v ∈ m.values ↔ ∃ k, m.find? k = some v := by
  rw [values, List.mem_map]
  constructor
  · rintro ⟨⟨k, v'⟩, hmem, rfl⟩
    exact ⟨k, find?_eq_some_iff.mpr hmem⟩
  · rintro ⟨k, hk⟩
    exact ⟨(k, v), find?_eq_some_iff.mp hk, rfl⟩

/-- Nothing stands under a key after an insertion if nothing did before and it is another key. -/
theorem find?_insert_eq_none_iff {m : SortedMap α β} {k k' : α} {v : β} :
    (m.insert k v).find? k' = none ↔ k' ≠ k ∧ m.find? k' = none := by
  by_cases h : k' = k
  · simp [h]
  · rw [find?_insert_of_ne _ _ h]
    simp [h]

/-- What stands under a key after an entry is put in under a new one. -/
theorem find?_insert_eq_some_iff {m : SortedMap α β} {k k' : α} {v v' : β} (h : m.find? k = none) :
    (m.insert k v).find? k' = some v' ↔ (k' = k ∧ v' = v) ∨ m.find? k' = some v' := by
  by_cases heq : k' = k
  · rw [heq, find?_insert_self, h]
    simp [eq_comm]
  · rw [find?_insert_of_ne _ _ heq]
    simp [heq]

/-- What holds of every entry of a map and of a further entry holds of every entry once that is put
in. -/
theorem forall_find?_insert {P : α → β → Prop} {m : SortedMap α β}
    (hm : ∀ k v, m.find? k = some v → P k v) {k : α} {v : β} (h : P k v) :
    ∀ k' v', (m.insert k v).find? k' = some v' → P k' v' := by
  intro k' v' hv'
  by_cases heq : k' = k
  · subst heq
    rw [find?_insert_self] at hv'
    rwa [← Option.some.inj hv']
  · rw [find?_insert_of_ne _ _ heq] at hv'
    exact hm k' v' hv'

theorem find?_filter_eq_some_iff {m : SortedMap α β} {keep : α → β → Bool} {k : α} {v : β} :
    (m.filter keep).find? k = some v ↔ m.find? k = some v ∧ keep k v := by
  rw [find?_eq_some_iff, find?_eq_some_iff, filter, List.mem_filter]

/-- The other keys stay when one is dropped. -/
theorem find?_erase_of_ne (m : SortedMap α β) {k k' : α} (h : k' ≠ k) :
    (m.erase k).find? k' = m.find? k' := by
  refine Option.ext fun v => ?_
  have hne : compare k k' ≠ .eq := fun heq => h (LawfulEqCmp.eq_of_compare heq).symm
  rw [erase, find?_filter_eq_some_iff]
  simp [hne]

/-! ### Maps of lists -/

/-- Of the entries that a map was made from, the last under a key counts. -/
theorem find?_ofList (l : List (α × β)) (k : α) : (ofList l).find? k = lookup k l.reverse := by
  -- the entry that was put in last is the first that a lookup meets
  rw [ofList, List.foldl_eq_foldr_reverse]
  induction l.reverse with
  | nil => rfl
  | cons p rest ih =>
    rw [List.foldr_cons, find?_insert, ih]
    rfl

theorem mem_of_find?_ofList {l : List (α × β)} {k : α} {v : β}
    (h : (ofList l).find? k = some v) : (k, v) ∈ l := by
  rw [find?_ofList] at h
  exact List.mem_reverse.mp (mem_of_lookup h)

omit [TransOrd α] [LawfulEqOrd α] in
/-- An entry of the first list counts before those of the second. -/
theorem lookup_append (l l' : List (α × β)) (k : α) :
    lookup k (l ++ l') = (lookup k l).or (lookup k l') := by
  induction l with
  | nil => rfl
  | cons p rest ih =>
    rw [List.cons_append, lookup, lookup, ih]
    by_cases hk : compare k p.1 = .eq <;> simp [hk]

omit [TransOrd α] in
theorem exists_lookup_of_mem {l : List (α × β)} {k : α} {v : β} (h : (k, v) ∈ l) :
    ∃ v', lookup k l = some v' := by
  induction l with
  | nil => exact absurd h List.not_mem_nil
  | cons p rest ih =>
    rw [lookup]
    by_cases hk : compare k p.1 = .eq
    · exact ⟨p.2, if_pos hk⟩
    · rw [if_neg hk]
      rcases List.mem_cons.mp h with rfl | h
      · exact absurd ReflCmp.compare_self hk
      · exact ih h

theorem exists_find?_ofList {l : List (α × β)} {k : α} {v : β} (h : (k, v) ∈ l) :
    ∃ v', (ofList l).find? k = some v' := by
  rw [find?_ofList]
  exact exists_lookup_of_mem (List.mem_reverse.mpr h)

/-- Where every key has one entry, the order of the entries does not matter. -/
theorem find?_ofList_iff {l : List (α × β)} (hl : (l.map Prod.fst).Nodup) {k : α} {v : β} :
    (ofList l).find? k = some v ↔ (k, v) ∈ l := by
  constructor
  · exact mem_of_find?_ofList
  · intro h
    obtain ⟨v', hv'⟩ := exists_find?_ofList h
    have hmem := mem_of_find?_ofList hv'
    have hv : (k, v) = (k, v') := List.inj_on_of_nodup_map hl h hmem rfl
    cases hv
    exact hv'

/-- A map is made from its own entries. -/
theorem ofList_entries (m : SortedMap α β) : ofList m.entries = m := by
  refine ext_find? fun k => Option.ext fun v => ?_
  rw [find?_ofList_iff m.nodup_keys, find?_eq_some_iff]

theorem mem_keys_ofList {l : List (α × β)} {k : α} : k ∈ (ofList l).keys ↔ k ∈ l.map Prod.fst := by
  rw [mem_keys_iff, List.mem_map]
  constructor
  · rintro ⟨v, hv⟩
    exact ⟨(k, v), mem_of_find?_ofList hv, rfl⟩
  · rintro ⟨⟨k', v⟩, hmem, rfl⟩
    exact exists_find?_ofList hmem

end RpmProvision.SortedMap
