/-
Graphs whose parts agree.

Nodes, edges and slots of a graph are kept apart, so that they can contradict each other. In a sound
graph they do not: nodes stand under their own numbers, the two families of edges are each other's
converse and have known ends only, a slot is held by a node of its requirement, and no two run nodes
have one requirement.

* **`Sound`** — the parts of a graph agree;
* **`insertNode_cases`**, **`insertEdge_cases`** — what is put into a graph, or refused before anything
  was done;
* **`addNode_eq_ok`**, **`addEdge_eq_ok`** — what can be added to a graph, and what the graph is then;
* **`node?_of_addNode`**, **`slot_of_addNode`** — the nodes and slots after a node has been added;
* **`sound_addNode`**, **`sound_addEdge`** — what is added keeps a graph sound.
-/
import RpmProvision.Proofs.Graph.Links
import RpmProvision.Proofs.Step

namespace RpmProvision.Graph

open Step

/-- The parts of a graph agree. -/
structure Sound (g : Graph) : Prop where
  id_eq : ∀ {id n}, g.node? id = some n → n.id = id
  full_needs : Full g.needs
  full_neededBy : Full g.neededBy
  transpose : ∀ {a b}, Links g.needs a b ↔ Links g.neededBy b a
  source : ∀ {a b}, Links g.needs a b → ∃ n, g.node? a = some n
  target : ∀ {a b}, Links g.needs a b → ∃ n, g.node? b = some n
  holder : ∀ {r id}, g.slots.find? r = some id → ∃ n, g.node? id = some n ∧ n.requirement = r
    ∧ (n.kind = .run ∨ n.kind = .remote ∨ n.kind = .preBuilt)
  run_slot : ∀ {id n}, g.node? id = some n → n.kind = .run →
    ∃ id', g.slots.find? n.requirement = some id'
  run_unique : ∀ {id id' n n'}, g.node? id = some n → g.node? id' = some n' → n.kind = .run →
    n'.kind = .run → n.requirement = n'.requirement → id = id'

theorem sound_empty : Sound empty where
  id_eq h := nomatch h
  full_needs := full_empty
  full_neededBy := full_empty
  transpose := ⟨fun h => absurd h (not_links_empty _ _), fun h => absurd h (not_links_empty _ _)⟩
  source h := absurd h (not_links_empty _ _)
  target h := absurd h (not_links_empty _ _)
  holder h := nomatch h
  run_slot h := nomatch h
  run_unique h := nomatch h

/-! ### Adding nodes and edges -/

/-- The graph with one more node. -/
def withNode (g : Graph) (n : Node) : Graph :=
  { g with
    nodes := g.nodes.insert n.id n
    slots := if n.kind = .run then g.slots.insert n.requirement n.id else g.slots }

/-- The graph with one more edge. -/
def withEdge (g : Graph) (e : NodeId × NodeId) : Graph :=
  { g with needs := addUnder g.needs e.1 e.2, neededBy := addUnder g.neededBy e.2 e.1 }

@[simp] theorem needs_withNode (g : Graph) (n : Node) : (g.withNode n).needs = g.needs := rfl

@[simp] theorem neededBy_withNode (g : Graph) (n : Node) :
    (g.withNode n).neededBy = g.neededBy := rfl

theorem links_needs_withEdge {g : Graph} {a b x y : NodeId} :
    Links (g.withEdge (a, b)).needs x y ↔ (x = a ∧ y = b) ∨ Links g.needs x y :=
  links_addUnder

theorem links_neededBy_withEdge {g : Graph} {a b x y : NodeId} :
    Links (g.withEdge (a, b)).neededBy y x ↔ (y = b ∧ x = a) ∨ Links g.neededBy y x :=
  links_addUnder

/-- Nothing stands in the way of a new node: its number is new, and the slot of its requirement is
free if it is a run node. -/
def Admits (g : Graph) (n : Node) : Prop :=
  g.node? n.id = none ∧ (n.kind = .run → g.slots.find? n.requirement = none)

/-- A node is put into the graph, or it is refused before anything was done. -/
theorem insertNode_cases (n : Node) (g : Graph) :
    (g.Admits n ∧ insertNode n g = (.ok (), g.withNode n))
      ∨ ¬ g.Admits n ∧ ∃ fault, insertNode n g = (.error fault, g) := by
  unfold insertNode requireNew takeRunSlot
  simp only [bind_apply, asks_apply, andThen_ok, SortedMap.contains]
  cases hid : g.nodes.find? n.id with
  | some m =>
    refine .inr ⟨fun h => ?_, .duplicateNode n.id, rfl⟩
    cases hid.symm.trans h.1
  | none =>
    by_cases hrun : n.kind = .run
    · rw [if_pos hrun]
      cases hslot : g.slots.find? n.requirement with
      | some occupant =>
        refine .inr ⟨fun h => ?_, .slotTaken n.requirement occupant, ?_⟩
        · cases hslot.symm.trans (h.2 hrun)
        · simp [bind_apply, hslot]
      | none =>
        refine .inl ⟨⟨hid, fun _ => hslot⟩, ?_⟩
        rw [withNode, if_pos hrun]
        simp [bind_apply, hslot]
    · refine .inl ⟨⟨hid, fun h => absurd h hrun⟩, ?_⟩
      rw [if_neg hrun, withNode, if_neg hrun]
      rfl

theorem atomic_insertNode (n : Node) : Atomic (insertNode n) := by
  refine ⟨fun {g fault g'} h => ?_⟩
  obtain ⟨-, hok⟩ | ⟨-, fault', herror⟩ := insertNode_cases n g
  · cases hok.symm.trans h
  · cases herror.symm.trans h
    rfl

/-- What adding a node does if it is not refused. -/
theorem addNode_eq_ok {g g' : Graph} {n : Node} :
    g.addNode n = .ok g' ↔ g.node? n.id = none
      ∧ (n.kind = .run → g.slots.find? n.requirement = none) ∧ g' = g.withNode n := by
  rw [addNode, endOf_eq_ok, ← and_assoc]
  obtain ⟨hadmits, hok⟩ | ⟨hnot, fault, herror⟩ := insertNode_cases n g
  · rw [hok]
    constructor
    · rintro ⟨_, h⟩
      cases h
      exact ⟨hadmits, rfl⟩
    · rintro ⟨-, rfl⟩
      exact ⟨(), rfl⟩
  · rw [herror]
    constructor
    · rintro ⟨_, h⟩
      cases h
    · exact fun h => absurd h.1 hnot

/-- The nodes after one has been added are those before and this one. -/
theorem node?_of_addNode {g g' : Graph} {n : Node} (h : g.addNode n = .ok g') {id : NodeId}
    {m : Node} : g'.node? id = some m ↔ (id = n.id ∧ m = n) ∨ g.node? id = some m := by
  obtain ⟨hnone, -, rfl⟩ := addNode_eq_ok.mp h
  exact SortedMap.find?_insert_eq_some_iff hnone

/-- The slots after a node has been added are those before, and the one of the node if it is a run
node. -/
theorem slot_of_addNode {g g' : Graph} {n : Node} (h : g.addNode n = .ok g') {r : Requirement}
    {id : NodeId} : g'.slots.find? r = some id ↔
      (n.kind = .run ∧ r = n.requirement ∧ id = n.id) ∨ g.slots.find? r = some id := by
  obtain ⟨-, hfree, rfl⟩ := addNode_eq_ok.mp h
  rw [withNode]
  by_cases hrun : n.kind = .run
  · rw [if_pos hrun, SortedMap.find?_insert_eq_some_iff (hfree hrun)]
    simp [hrun]
  · rw [if_neg hrun]
    simp [hrun]

/-- A node that is added keeps a graph sound. -/
theorem sound_addNode {g g' : Graph} {n : Node} (hg : Sound g) (h : g.addNode n = .ok g') :
    Sound g' := by
  obtain ⟨-, hfree, heq⟩ := addNode_eq_ok.mp h
  have hneeds : g'.needs = g.needs := by rw [heq, needs_withNode]
  have hneededBy : g'.neededBy = g.neededBy := by rw [heq, neededBy_withNode]
  have hold {id : NodeId} {m : Node} (hm : g.node? id = some m) : g'.node? id = some m :=
    (node?_of_addNode h).mpr (.inr hm)
  refine { id_eq := ?_, full_needs := ?_, full_neededBy := ?_, transpose := ?_, source := ?_,
           target := ?_, holder := ?_, run_slot := ?_, run_unique := ?_ }
  · intro id m hm
    rcases (node?_of_addNode h).mp hm with ⟨rfl, rfl⟩ | hm
    · rfl
    · exact hg.id_eq hm
  · rw [hneeds]
    exact hg.full_needs
  · rw [hneededBy]
    exact hg.full_neededBy
  · intro a b
    rw [hneeds, hneededBy]
    exact hg.transpose
  · intro a b hab
    rw [hneeds] at hab
    obtain ⟨m, hm⟩ := hg.source hab
    exact ⟨m, hold hm⟩
  · intro a b hab
    rw [hneeds] at hab
    obtain ⟨m, hm⟩ := hg.target hab
    exact ⟨m, hold hm⟩
  · intro r id hr
    rcases (slot_of_addNode h).mp hr with ⟨hrun, rfl, rfl⟩ | hr
    · exact ⟨n, (node?_of_addNode h).mpr (.inl ⟨rfl, rfl⟩), rfl, .inl hrun⟩
    · obtain ⟨m, hm, hrest⟩ := hg.holder hr
      exact ⟨m, hold hm, hrest⟩
  · intro id m hm hrun
    rcases (node?_of_addNode h).mp hm with ⟨rfl, rfl⟩ | hm
    · exact ⟨m.id, (slot_of_addNode h).mpr (.inl ⟨hrun, rfl, rfl⟩)⟩
    · obtain ⟨id', hid'⟩ := hg.run_slot hm hrun
      exact ⟨id', (slot_of_addNode h).mpr (.inr hid')⟩
  · -- a new run node found its slot free, so no run node had its requirement
    have hfresh {id : NodeId} {m : Node} (hm : g.node? id = some m) (hmrun : m.kind = .run)
        (hrun : n.kind = .run) : m.requirement ≠ n.requirement := by
      intro hreq
      obtain ⟨id', hid'⟩ := hg.run_slot hm hmrun
      rw [hreq, hfree hrun] at hid'
      cases hid'
    intro id id' m m' hm hm' hrun hrun' hreq
    rcases (node?_of_addNode h).mp hm with ⟨rfl, rfl⟩ | hm
    · rcases (node?_of_addNode h).mp hm' with ⟨rfl, rfl⟩ | hm'
      · rfl
      · exact absurd hreq.symm (hfresh hm' hrun' hrun)
    · rcases (node?_of_addNode h).mp hm' with ⟨rfl, rfl⟩ | hm'
      · exact absurd hreq (hfresh hm hrun hrun')
      · exact hg.run_unique hm hm' hrun hrun' hreq

/-- An edge is put into the graph, or it is refused before anything was done. -/
theorem insertEdge_cases (a b : NodeId) (g : Graph) :
    (((∃ n, g.node? a = some n) ∧ ∃ n, g.node? b = some n)
        ∧ insertEdge a b g = (.ok (), g.withEdge (a, b)))
      ∨ ¬ ((∃ n, g.node? a = some n) ∧ ∃ n, g.node? b = some n)
        ∧ ∃ fault, insertEdge a b g = (.error fault, g) := by
  have hend (id : NodeId) : ((∃ n, g.node? id = some n) ∧ requireEnd a b id g = (.ok (), g))
      ∨ ¬ (∃ n, g.node? id = some n)
        ∧ requireEnd a b id g = (.error (.unknownEndpoint a b id), g) := by
    unfold requireEnd
    rw [bind_apply, asks_apply, andThen_ok, SortedMap.contains, node?]
    cases g.nodes.find? id with
    | some n => exact .inl ⟨⟨n, rfl⟩, rfl⟩
    | none => exact .inr ⟨by simp, rfl⟩
  unfold insertEdge
  rw [bind_apply]
  obtain ⟨ha, hok⟩ | ⟨ha, herror⟩ := hend a
  · rw [hok, andThen_ok, bind_apply]
    obtain ⟨hb, hok⟩ | ⟨hb, herror⟩ := hend b
    · rw [hok]
      exact .inl ⟨⟨ha, hb⟩, rfl⟩
    · rw [herror]
      exact .inr ⟨fun h => hb h.2, _, rfl⟩
  · rw [herror]
    exact .inr ⟨fun h => ha h.1, _, rfl⟩

theorem atomic_insertEdge (a b : NodeId) : Atomic (insertEdge a b) := by
  refine ⟨fun {g fault g'} h => ?_⟩
  obtain ⟨-, hok⟩ | ⟨-, fault', herror⟩ := insertEdge_cases a b g
  · cases hok.symm.trans h
  · cases herror.symm.trans h
    rfl

/-- What adding an edge does if it is not refused. -/
theorem addEdge_eq_ok {g g' : Graph} {a b : NodeId} :
    g.addEdge a b = .ok g' ↔ (∃ n, g.node? a = some n) ∧ (∃ n, g.node? b = some n)
      ∧ g' = g.withEdge (a, b) := by
  rw [addEdge, endOf_eq_ok, ← and_assoc]
  obtain ⟨hends, hok⟩ | ⟨hnot, fault, herror⟩ := insertEdge_cases a b g
  · rw [hok]
    constructor
    · rintro ⟨_, h⟩
      cases h
      exact ⟨hends, rfl⟩
    · rintro ⟨-, rfl⟩
      exact ⟨(), rfl⟩
  · rw [herror]
    constructor
    · rintro ⟨_, h⟩
      cases h
    · exact fun h => absurd h.1 hnot

/-- An edge that is added keeps a graph sound. -/
theorem sound_addEdge {g g' : Graph} {a b : NodeId} (hg : Sound g) (h : g.addEdge a b = .ok g') :
    Sound g' := by
  obtain ⟨ha, hb, rfl⟩ := addEdge_eq_ok.mp h
  refine { hg with full_needs := ?_, full_neededBy := ?_, transpose := ?_, source := ?_,
                   target := ?_ }
  · exact full_addUnder hg.full_needs a b
  · exact full_addUnder hg.full_neededBy b a
  · intro x y
    rw [links_needs_withEdge, links_neededBy_withEdge, hg.transpose, and_comm]
  · intro x y hxy
    rcases links_needs_withEdge.mp hxy with ⟨rfl, -⟩ | hxy
    · exact ha
    · exact hg.source hxy
  · intro x y hxy
    rcases links_needs_withEdge.mp hxy with ⟨-, rfl⟩ | hxy
    · exact hb
    · exact hg.target hxy

end RpmProvision.Graph
