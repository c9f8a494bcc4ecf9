/-
The links between nodes, as a relation.

A graph holds for each node the set of the nodes that it needs, and for each node the set of those
that need it. Both are families of sets, and a family without empty sets is known from the relation
that it stands for.

* **`links_addUnder`** — one more element in one of the sets;
* **`ext_links`** — two families of the same relation are the same family.
-/
import RpmProvision.Proofs.Graph.Basic

namespace RpmProvision.Graph

/-- For each number a set of numbers. -/
abbrev Family := SortedMap NodeId (SortedSet NodeId)

/-- `x` is in the set under `k`. -/
def Links (m : Family) (k x : NodeId) : Prop := ∃ s, m.find? k = some s ∧ s.find? x = some ()

/-- No set of the family is empty. -/
def Full (m : Family) : Prop := ∀ k s, m.find? k = some s → ∃ x, s.find? x = some ()

theorem links_iff_of_find? {m : Family} {k x : NodeId} {s : SortedSet NodeId}
    (h : m.find? k = some s) : Links m k x ↔ s.find? x = some () := by
  constructor
  · rintro ⟨s', hs', hx⟩
    cases h.symm.trans hs'
    exact hx
  · intro hx
    exact ⟨s, h, hx⟩

theorem not_links_of_find? {m : Family} {k x : NodeId} (h : m.find? k = none) : ¬ Links m k x := by
  rintro ⟨s, hs, -⟩
  rw [h] at hs
  cases hs

theorem not_links_empty (k x : NodeId) : ¬ Links ∅ k x := not_links_of_find? rfl

theorem full_empty : Full ∅ := fun _ _ h => nomatch h

/-! ### One more link -/

theorem find?_addUnder (m : Family) (k x k' : NodeId) :
    (addUnder m k x).find? k'
      = if k' = k then some (((m.find? k).getD ∅).insert x ()) else m.find? k' := by
  by_cases h : k' = k
  · rw [if_pos h, h, addUnder, SortedMap.find?_insert_self]
  · rw [if_neg h, addUnder, SortedMap.find?_insert_of_ne _ _ h]

theorem find?_getD_insert (m : Family) (k x y : NodeId) :
    (((m.find? k).getD ∅).insert x ()).find? y = some () ↔ y = x ∨ Links m k y := by
  by_cases h : y = x
  · rw [h, SortedMap.find?_insert_self]
    simp
  · rw [SortedMap.find?_insert_of_ne _ _ h]
    cases hk : m.find? k with
    | none =>
      have := not_links_of_find? (x := y) hk
      simp only [h, this, or_self, iff_false]
      exact fun he => nomatch he
    | some s =>
      rw [links_iff_of_find? hk]
      simp [h]

theorem links_addUnder {m : Family} {k x k' x' : NodeId} :
    Links (addUnder m k x) k' x' ↔ (k' = k ∧ x' = x) ∨ Links m k' x' := by
  have hfind := find?_addUnder m k x k'
  by_cases h : k' = k
  · rw [if_pos h] at hfind
    rw [links_iff_of_find? hfind, find?_getD_insert, h]
    simp
  · rw [if_neg h] at hfind
    rw [Links, hfind]
    simp [h, Links]

theorem full_addUnder {m : Family} (hm : Full m) (k x : NodeId) : Full (addUnder m k x) := by
  intro k' s hs
  rw [find?_addUnder] at hs
  by_cases h : k' = k
  · rw [if_pos h] at hs
    cases hs
    exact ⟨x, SortedMap.find?_insert_self ..⟩
  · rw [if_neg h] at hs
    exact hm k' s hs

/-! ### Equal families -/

/-- Two families of the same relation are the same family. -/
theorem ext_links {m n : Family} (hm : Full m) (hn : Full n)
    (h : ∀ k x, Links m k x ↔ Links n k x) : m = n := by
  refine SortedMap.ext_find? fun k => ?_
  -- a set that only one family has would link its number to something
  cases hmk : m.find? k with
  | none =>
    cases hnk : n.find? k with
    | none => rfl
    | some s =>
      obtain ⟨x, hx⟩ := hn k s hnk
      exact absurd ((h k x).mpr ⟨s, hnk, hx⟩) (not_links_of_find? hmk)
  | some s =>
    cases hnk : n.find? k with
    | none =>
      obtain ⟨x, hx⟩ := hm k s hmk
      exact absurd ((h k x).mp ⟨s, hmk, hx⟩) (not_links_of_find? hnk)
    | some s' =>
      refine congrArg some (SortedMap.ext_find? fun x => Option.ext fun u => ?_)
      rw [← links_iff_of_find? hmk, ← links_iff_of_find? hnk, h]

theorem mem_edges_iff {g : Graph} {a b : NodeId} : (a, b) ∈ g.edges ↔ Links g.needs a b := by
  rw [edges, List.mem_flatMap]
  constructor
  · rintro ⟨⟨k, s⟩, hmem, hb⟩
    obtain ⟨x, hx, heq⟩ := List.mem_map.mp hb
    cases heq
    obtain ⟨u, hu⟩ := SortedMap.mem_keys_iff.mp hx
    exact ⟨s, SortedMap.find?_eq_some_iff.mpr hmem, hu⟩
  · rintro ⟨s, hs, hb⟩
    exact ⟨(a, s), SortedMap.find?_eq_some_iff.mp hs,
      List.mem_map.mpr ⟨b, SortedMap.mem_keys_iff.mpr ⟨(), hb⟩, rfl⟩⟩

end RpmProvision.Graph
