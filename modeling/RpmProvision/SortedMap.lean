/-
Finite maps with ordered keys.

A `SortedMap` is its list of entries in strictly increasing key order, with the order as a proof
field. So a map has one representation: maps that answer every lookup alike are equal.

* **`find?_insert`** — an inserted key answers with its new value, every other key as before;
* **`ext_find?`** — two maps with the same lookups are the same map.
-/

namespace RpmProvision

open Std

/-- A finite map, held as its entries in strictly increasing key order. -/
structure SortedMap (α : Type) (β : Type) [Ord α] where
  entries : List (α × β)
  increasing : entries.Pairwise fun p q => compare p.1 q.1 = .lt

/-- A finite set with ordered elements. -/
abbrev SortedSet (α : Type) [Ord α] := SortedMap α Unit

namespace SortedMap

variable {α β γ : Type} [Ord α]

/-- The map without entries. -/
def empty : SortedMap α β := ⟨[], .nil⟩

instance : EmptyCollection (SortedMap α β) := ⟨empty⟩

instance : Inhabited (SortedMap α β) := ⟨empty⟩

/-- Two maps are equal when their entries are. -/
theorem ext_entries {m n : SortedMap α β} (h : m.entries = n.entries) : m = n := by
  cases m; cases n; cases h; rfl

instance [DecidableEq α] [DecidableEq β] : DecidableEq (SortedMap α β) := fun m n =>
  decidable_of_iff (m.entries = n.entries) ⟨ext_entries, fun h => h ▸ rfl⟩

/-- The value under `k` in a list of entries. -/
def lookup (k : α) : List (α × β) → Option β
  | [] => none
  | (k', v) :: rest => if compare k k' = .eq then some v else lookup k rest

/-- Put `v` under `k` into a sorted list of entries, in place of what was there. -/
def insertEntry (k : α) (v : β) : List (α × β) → List (α × β)
  | [] => [(k, v)]
  | (k', v') :: rest =>
    match compare k k' with
    | .lt => (k, v) :: (k', v') :: rest
    | .eq => (k, v) :: rest
    | .gt => (k', v') :: insertEntry k v rest

theorem mem_insertEntry {k : α} {v : β} {p : α × β} {l : List (α × β)} :
    p ∈ insertEntry k v l → p = (k, v) ∨ p ∈ l := by
  induction l with
  | nil => simp [insertEntry]
  | cons q rest ih =>
    obtain ⟨k', v'⟩ := q
    rw [insertEntry]
    split <;> grind

theorem increasing_insertEntry [TransOrd α] (k : α) (v : β) {l : List (α × β)}
    (h : l.Pairwise fun p q => compare p.1 q.1 = .lt) :
    (insertEntry k v l).Pairwise fun p q => compare p.1 q.1 = .lt := by
  induction l with
  | nil => simp [insertEntry]
  | cons q rest ih =>
    obtain ⟨k', v'⟩ := q
    obtain ⟨hq, hrest⟩ := List.pairwise_cons.1 h
    rw [insertEntry]
    split
    · next hlt =>
      refine List.pairwise_cons.2 ⟨fun p hp => ?_, h⟩
      rcases List.mem_cons.1 hp with rfl | hp
      · exact hlt
      · exact TransCmp.lt_trans hlt (hq p hp)
    · next heq =>
      refine List.pairwise_cons.2 ⟨fun p hp => ?_, hrest⟩
      exact TransCmp.lt_of_eq_of_lt heq (hq p hp)
    · next hgt =>
      refine List.pairwise_cons.2 ⟨fun p hp => ?_, ih hrest⟩
      rcases mem_insertEntry hp with rfl | hp
      · exact OrientedCmp.lt_of_gt hgt
      · exact hq p hp

/-- The value under `k`, if there is one. -/
def find? (m : SortedMap α β) (k : α) : Option β := lookup k m.entries

/-- Put `v` under `k`, in place of what was there. -/
def insert [TransOrd α] (m : SortedMap α β) (k : α) (v : β) : SortedMap α β :=
  ⟨insertEntry k v m.entries, increasing_insertEntry k v m.increasing⟩

/-- Keep the entries that `keep` accepts. -/
def filter (m : SortedMap α β) (keep : α → β → Bool) : SortedMap α β :=
  ⟨m.entries.filter fun p => keep p.1 p.2, m.increasing.filter _⟩

/-- Drop the entry under `k`. -/
def erase (m : SortedMap α β) (k : α) : SortedMap α β :=
  m.filter fun k' _ => compare k k' != .eq

/-- Change every value and keep the keys. -/
def mapValues (m : SortedMap α β) (f : β → γ) : SortedMap α γ :=
  ⟨m.entries.map fun p => (p.1, f p.2), List.pairwise_map.2 m.increasing⟩

/-- The keys in increasing order. -/
def keys (m : SortedMap α β) : List α := m.entries.map Prod.fst

/-- The values in the order of their keys. -/
def values (m : SortedMap α β) : List β := m.entries.map Prod.snd

/-- The number of entries. -/
def size (m : SortedMap α β) : Nat := m.entries.length

/-- Whether there is no entry. -/
def isEmpty (m : SortedMap α β) : Bool := m.entries.isEmpty

/-- Whether `k` has a value. -/
def contains (m : SortedMap α β) (k : α) : Bool := (m.find? k).isSome

/-- The map of a list of entries; of two values under one key the later one stays. -/
def ofList [TransOrd α] (l : List (α × β)) : SortedMap α β :=
  l.foldl (fun m p => m.insert p.1 p.2) empty

/-! ### Lookups -/

@[simp] theorem find?_empty (k : α) : (empty : SortedMap α β).find? k = none := rfl

theorem mem_of_lookup [LawfulEqOrd α] {k : α} {v : β} {l : List (α × β)}
    (h : lookup k l = some v) : (k, v) ∈ l := by
  induction l with
  | nil => simp [lookup] at h
  | cons q rest ih =>
    obtain ⟨k', v'⟩ := q
    rw [lookup] at h
    split at h
    · next heq =>
      rw [LawfulEqCmp.eq_of_compare heq, ← Option.some.inj h]
      exact List.mem_cons_self
    · exact List.mem_cons_of_mem _ (ih h)

section Lookup

variable [TransOrd α] [LawfulEqOrd α]

theorem lookup_insertEntry (k k' : α) (v : β) (l : List (α × β)) :
    lookup k' (insertEntry k v l) = if compare k' k = .eq then some v else lookup k' l := by
  induction l with
  | nil => simp [insertEntry, lookup]
  | cons q rest ih =>
    obtain ⟨k₁, v₁⟩ := q
    rw [insertEntry]
    split
    · simp [lookup]
    · next heq =>
      rw [LawfulEqCmp.eq_of_compare heq]
      by_cases h : compare k' k₁ = .eq <;> simp [lookup, h]
    · next hgt =>
      rw [lookup, ih, lookup]
      by_cases h : compare k' k₁ = .eq
      · have : compare k' k ≠ .eq := by
          rw [LawfulEqCmp.eq_of_compare h, OrientedCmp.lt_of_gt hgt]; decide
        simp [h, this]
      · simp [h]

theorem find?_insert (m : SortedMap α β) (k k' : α) (v : β) :
    (m.insert k v).find? k' = if compare k' k = .eq then some v else m.find? k' :=
  lookup_insertEntry k k' v m.entries

@[simp] theorem find?_insert_self (m : SortedMap α β) (k : α) (v : β) :
    (m.insert k v).find? k = some v := by
  simp [find?_insert]

theorem find?_insert_of_ne (m : SortedMap α β) {k k' : α} (v : β) (h : k' ≠ k) :
    (m.insert k v).find? k' = m.find? k' := by
  rw [find?_insert, if_neg fun e => h (LawfulEqCmp.eq_of_compare e)]

theorem lookup_of_mem {k : α} {v : β} {l : List (α × β)}
    (hl : l.Pairwise fun p q => compare p.1 q.1 = .lt) (h : (k, v) ∈ l) :
    lookup k l = some v := by
  induction l with
  | nil => simp at h
  | cons q rest ih =>
    obtain ⟨hq, hrest⟩ := List.pairwise_cons.1 hl
    rcases List.mem_cons.1 h with rfl | h
    · simp [lookup]
    · have hlt := hq _ h
      have hne : compare k q.1 ≠ .eq := by
        rw [OrientedCmp.gt_of_lt hlt]; decide
      rw [lookup, if_neg hne]
      exact ih hrest h

/-- Lookups are membership in the entries. -/
theorem find?_eq_some_iff {m : SortedMap α β} {k : α} {v : β} :
    m.find? k = some v ↔ (k, v) ∈ m.entries :=
  ⟨mem_of_lookup, lookup_of_mem m.increasing⟩

theorem eq_of_mem_iff {l₁ l₂ : List (α × β)}
    (h₁ : l₁.Pairwise fun p q => compare p.1 q.1 = .lt)
    (h₂ : l₂.Pairwise fun p q => compare p.1 q.1 = .lt)
    (h : ∀ p, p ∈ l₁ ↔ p ∈ l₂) : l₁ = l₂ := by
  induction l₁ generalizing l₂ with
  | nil =>
    cases l₂ with
    | nil => rfl
    | cons q r₂ => exact absurd ((h q).2 List.mem_cons_self) (by simp)
  | cons p r₁ ih =>
    cases l₂ with
    | nil => exact absurd ((h p).1 List.mem_cons_self) (by simp)
    | cons q r₂ =>
      obtain ⟨hp, hr₁⟩ := List.pairwise_cons.1 h₁
      obtain ⟨hq, hr₂⟩ := List.pairwise_cons.1 h₂
      have irrefl : ∀ x : α × β, compare x.1 x.1 ≠ .lt := fun x => by simp
      have hpq : p = q := by
        rcases List.mem_cons.1 ((h p).1 List.mem_cons_self) with e | hmem
        · exact e
        · rcases List.mem_cons.1 ((h q).2 List.mem_cons_self) with e | hmem'
          · exact e.symm
          · exact absurd (TransCmp.lt_trans (hq p hmem) (hp q hmem')) (irrefl q)
      subst hpq
      refine congrArg _ (ih hr₁ hr₂ fun x => ⟨fun hx => ?_, fun hx => ?_⟩)
      · rcases List.mem_cons.1 ((h x).1 (List.mem_cons_of_mem _ hx)) with rfl | hx'
        · exact absurd (hp x hx) (irrefl x)
        · exact hx'
      · rcases List.mem_cons.1 ((h x).2 (List.mem_cons_of_mem _ hx)) with rfl | hx'
        · exact absurd (hq x hx) (irrefl x)
        · exact hx'

/-- Two maps with the same lookups are the same map. -/
theorem ext_find? {m n : SortedMap α β} (h : ∀ k, m.find? k = n.find? k) : m = n :=
  ext_entries <| eq_of_mem_iff m.increasing n.increasing fun p => by
    rw [← find?_eq_some_iff, ← find?_eq_some_iff, h]

end Lookup

end SortedMap

end RpmProvision
