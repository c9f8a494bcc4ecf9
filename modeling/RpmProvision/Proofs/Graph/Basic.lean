/-
Looking at the nodes of a graph.

* **`mem_unresolvedRunNodes_iff`** — the nodes that a run starts from;
* **`unresolvedRunNodes_lt`** — they come in the order of their numbers, each once.
-/
import Mathlib.Data.List.Forall2
import RpmProvision.Graph.Basic
import RpmProvision.Proofs.SortedMap

namespace RpmProvision.Graph

/-! ### One node -/

@[simp] theorem node?_setNode_self (g : Graph) (id : NodeId) (n : Node) :
    (g.setNode id n).node? id = some n :=
  SortedMap.find?_insert_self ..

theorem node?_setNode_of_ne (g : Graph) {id id' : NodeId} (n : Node) (h : id' ≠ id) :
    (g.setNode id n).node? id' = g.node? id' :=
  SortedMap.find?_insert_of_ne _ _ h

/-- Looking things up one by one, if none of them is missing. -/
theorem forall₂_filterMap {α β : Type} {f : α → Option β} {l : List α}
    (h : ∀ a ∈ l, ∃ b, f a = some b) : List.Forall₂ (fun a b => f a = some b) l (l.filterMap f) := by
  induction l with
  | nil => exact .nil
  | cons a rest ih =>
    obtain ⟨b, hb⟩ := h a List.mem_cons_self
    rw [List.filterMap_cons_some hb]
    exact .cons hb (ih fun a' ha' => h a' (List.mem_cons_of_mem a ha'))

/-! ### Nodes that hold a slot -/

theorem mem_runNodes_iff {g : Graph} {id : NodeId} :
    id ∈ g.runNodes ↔ ∃ r, g.slots.find? r = some id := by
  rw [runNodes, SortedMap.mem_keys_ofList, List.map_map, ← SortedMap.mem_values_iff]
  simp

theorem isUnresolved_iff {g : Graph} {id : NodeId} :
    g.isUnresolved id ↔ ∃ n, g.node? id = some n ∧ n.state = .unresolved := by
  rw [isUnresolved]
  cases g.node? id with
  | none => simp
  | some n => simp

theorem mem_unresolvedRunNodes_iff {g : Graph} {id : NodeId} :
    id ∈ g.unresolvedRunNodes ↔ (∃ r, g.slots.find? r = some id)
      ∧ ∃ n, g.node? id = some n ∧ n.state = .unresolved := by
  rw [unresolvedRunNodes, List.mem_filter, mem_runNodes_iff, isUnresolved_iff]

theorem stats_unresolved_eq_zero_iff {g : Graph} :
    g.stats.unresolved = 0 ↔ g.unresolvedRunNodes = [] := List.length_eq_zero_iff

theorem unresolvedRunNodes_lt (g : Graph) : g.unresolvedRunNodes.Pairwise (· < ·) :=
  (SortedMap.keys_lt _).filter _

end RpmProvision.Graph
