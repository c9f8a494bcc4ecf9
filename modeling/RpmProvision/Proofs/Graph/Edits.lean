/-
Graphs that come about by edits.

A graph starts without nodes. Nodes and edges are added to it, remote nodes take slots, one by one or
all at once, and runs resolve its nodes, in any order and whether or not an edit is refused. Its
parts always agree then, and it comes back when it is written and read.

* **`Edit`**, **`edited`** — the edits, and the graph after a list of them;
* **`sound_edited`** — each edit keeps a graph sound, so any list of them does;
* **`Linked`**, **`Needing`** — edges that are found from both ends, and the nodes at their far ends;
* **`consistent_edited`** — what can be relied on in such a graph, and that refusals change nothing;
* **`parse_render_edited`** — such a graph written and read again.
-/
import RpmProvision.Proofs.Graph.Reread
import RpmProvision.Proofs.Resolution.Frame

namespace RpmProvision.Graph

open Step Resolution

/-- Something that is done to a graph. -/
inductive Edit where
  | addNode (n : Node)
  | addEdge (source target : NodeId)
  | takeSlot (id : NodeId) (replacing : Bool)
  | mergeRemotes
  | resolve (run : Run)

namespace Edit

/-- An addition, with the graph that it leaves whether or not it is refused. -/
def ofAddition (x : Step Graph GraphFault Unit) (g : Graph) : Except Error Unit × Graph :=
  ((x g).1.mapError GraphFault.toError, (x g).2)

/-- An edit of slots, without its events. -/
def ofEditing {α : Type} (x : Step Editing GraphFault α) (g : Graph) : Except Error Unit × Graph :=
  let r := x ⟨g, []⟩
  ((r.1.map fun _ => ()).mapError GraphFault.toError, r.2.graph)

/-- How an edit ends, and the graph that it leaves. -/
def apply (g : Graph) : Edit → Except Error Unit × Graph
  | .addNode n => ofAddition (insertNode n) g
  | .addEdge source target => ofAddition (insertEdge source target) g
  | .takeSlot id replacing => ofEditing (Graph.takeSlot id replacing) g
  | .mergeRemotes => ofEditing Graph.mergeRemotes g
  | .resolve run => ((run.on g).1.map fun _ => (), (run.on g).2)

/-- Whether the edit adds a node or an edge. -/
def isAddition : Edit → Bool
  | .addNode _ => true
  | .addEdge _ _ => true
  | _ => false

/-- Whether the edit is a run that resolves nodes. -/
def isResolution : Edit → Bool
  | .resolve _ => true
  | _ => false

end Edit

/-- The graph after some edits, one after another, starting without nodes. -/
def edited (edits : List Edit) : Graph := edits.foldl (fun g edit => (edit.apply g).2) empty

/-! ### One edit -/

/-- A remote node is given the slot of its requirement, or nothing happens to the graph. -/
theorem takeSlot_cases (id : NodeId) (replacing : Bool) (e : Editing) :
    (takeSlot id replacing e).2.graph = e.graph
      ∨ ∃ n, e.graph.node? id = some n ∧ n.kind = .remote ∧ (takeSlot id replacing e).1 = .ok ()
        ∧ (takeSlot id replacing e).2.graph
          = { e.graph with slots := e.graph.slots.insert n.requirement id } := by
  rw [takeSlot]
  cases hn : e.graph.node? id with
  | none => exact .inl rfl
  | some n =>
    dsimp only
    by_cases hkind : n.kind = .remote
    · rw [if_neg (not_not_intro hkind)]
      cases e.graph.slots.find? n.requirement with
      | none => exact .inr ⟨n, rfl, hkind, rfl, rfl⟩
      | some occupant =>
        dsimp only
        by_cases hocc : occupant = id
        · rw [if_pos hocc]
          exact .inl rfl
        · rw [if_neg hocc]
          cases replacing with
          | false => exact .inl rfl
          | true => exact .inr ⟨n, rfl, hkind, rfl, rfl⟩
    · rw [if_pos hkind]
      exact .inl rfl

/-- A slot that is given to a remote node of its requirement keeps a graph sound. -/
theorem Sound.giveSlot {g : Graph} (hg : Sound g) {id : NodeId} {n : Node}
    (hn : g.node? id = some n) (hkind : n.kind = .remote) :
    Sound { g with slots := g.slots.insert n.requirement id } := by
  refine { hg with holder := ?_, run_slot := ?_ }
  · intro r i hi
    by_cases hr : r = n.requirement
    · rw [hr, SortedMap.find?_insert_self] at hi
      cases hi
      exact ⟨n, hn, hr.symm, .inr (.inl hkind)⟩
    · rw [SortedMap.find?_insert_of_ne _ _ hr] at hi
      exact hg.holder hi
  · intro i m hm hrun
    by_cases hr : m.requirement = n.requirement
    · exact ⟨id, by rw [hr, SortedMap.find?_insert_self]⟩
    · rw [SortedMap.find?_insert_of_ne _ _ hr]
      exact hg.run_slot hm hrun

/-- Each edit keeps a graph sound. -/
theorem sound_apply {g : Graph} (hg : Sound g) (edit : Edit) : Sound (edit.apply g).2 := by
  cases edit with
  | addNode n => exact (atomic_insertNode n).after hg fun g' h => sound_addNode hg h
  | addEdge source target =>
    exact (atomic_insertEdge source target).after hg fun g' h => sound_addEdge hg h
  | takeSlot id replacing =>
    show Sound (takeSlot id replacing ⟨g, []⟩).2.graph
    rcases takeSlot_cases id replacing ⟨g, []⟩ with h | ⟨n, hn, hkind, -, h⟩
    · rw [h]
      exact hg
    · rw [h]
      exact hg.giveSlot hn hkind
  | mergeRemotes =>
    obtain ⟨events, h⟩ := mergeRemotes_apply hg []
    show Sound (Graph.mergeRemotes ⟨g, []⟩).2.graph
    rw [h]
    exact hg.merged
  | resolve run => exact hg.advance (advances_on run g)

/-- A refused addition, slot or merge leaves a sound graph as it was. -/
theorem apply_of_error {g : Graph} (hg : Sound g) {edit : Edit} (hedit : edit.isResolution = false)
    {e : Error} (he : (edit.apply g).1 = .error e) : (edit.apply g).2 = g := by
  have haddition {x : Step Graph GraphFault Unit} (hx : Atomic x)
      (h : (Edit.ofAddition x g).1 = .error e) : (x g).2 = g := by
    rw [Edit.ofAddition] at h
    rcases hrun : x g with ⟨fault | _, g'⟩
    · exact hx.of_error hrun
    · rw [hrun] at h
      cases h
  cases edit with
  | addNode n => exact haddition (atomic_insertNode n) he
  | addEdge source target => exact haddition (atomic_insertEdge source target) he
  | takeSlot id replacing =>
    rcases takeSlot_cases id replacing ⟨g, []⟩ with h | ⟨n, -, -, hok, -⟩
    · exact h
    · change ((takeSlot id replacing ⟨g, []⟩).1.map _).mapError _ = _ at he
      rw [hok] at he
      cases he
  | mergeRemotes =>
    -- a merge of a sound graph is never refused
    obtain ⟨events, h⟩ := mergeRemotes_apply hg []
    change ((Graph.mergeRemotes ⟨g, []⟩).1.map _).mapError _ = _ at he
    rw [h] at he
    cases he
  | resolve run => cases hedit

/-! ### Many edits -/

/-- What holds of the graph without nodes and is kept by each of some edits holds after them. -/
theorem edited_induction {P : Graph → Prop} {edits : List Edit} (hempty : P empty)
    (hstep : ∀ edit ∈ edits, ∀ g, P g → P (edit.apply g).2) : P (edited edits) := by
  suffices h : ∀ g, P g → P (edits.foldl (fun g edit => (edit.apply g).2) g) from h empty hempty
  induction edits with
  | nil => exact fun g hg => hg
  | cons edit rest ih =>
    intro g hg
    exact ih (fun e he => hstep e (List.mem_cons_of_mem edit he)) _
      (hstep edit List.mem_cons_self g hg)

theorem sound_edited (edits : List Edit) : Sound (edited edits) :=
  edited_induction sound_empty fun edit _ _ hg => sound_apply hg edit

/-! ### What a sound graph shows -/

theorem mem_keys_getD {m : Family} {k x : NodeId} :
    x ∈ ((m.find? k).getD ∅).keys ↔ Links m k x := by
  rw [SortedMap.mem_keys_iff]
  cases hk : m.find? k with
  | none =>
    refine ⟨?_, fun h => absurd h (not_links_of_find? hk)⟩
    rintro ⟨u, hu⟩
    cases hu
  | some s =>
    rw [links_iff_of_find? hk]
    exact ⟨fun ⟨u, hu⟩ => hu, fun hx => ⟨(), hx⟩⟩

/-- The nodes that need a node are known by the numbers in its set. -/
theorem Sound.map_id_dependents {g : Graph} (hg : Sound g) (id : NodeId) :
    (g.dependents id).map Node.id = ((g.neededBy.find? id).getD ∅).keys := by
  rw [dependents]
  have hstored : ∀ x ∈ ((g.neededBy.find? id).getD ∅).keys, (g.node? x).map Node.id = some x := by
    intro x hx
    obtain ⟨n, hn⟩ := hg.source (hg.transpose.mpr (mem_keys_getD.mp hx))
    rw [hn, Option.map_some, hg.id_eq hn]
  rw [List.map_filterMap, List.filterMap_congr hstored, List.filterMap_some]

theorem Sound.mem_dependents_iff {g : Graph} (hg : Sound g) {id : NodeId} {n : Node} :
    n ∈ g.dependents id ↔ g.node? n.id = some n ∧ (n.id, id) ∈ g.edges := by
  rw [dependents, List.mem_filterMap, mem_edges_iff, hg.transpose]
  constructor
  · rintro ⟨x, hx, hn⟩
    rw [hg.id_eq hn]
    exact ⟨hn, mem_keys_getD.mp hx⟩
  · rintro ⟨hn, hx⟩
    exact ⟨n.id, mem_keys_getD.mpr hx, hn⟩

/-- Every edge is found from both of its ends, and starts at a node. -/
structure Linked (g : Graph) : Prop where
  transpose : ∀ a b, (a, b) ∈ g.edges ↔ Links g.neededBy b a
  source : ∀ a b, (a, b) ∈ g.edges → ∃ n, g.node? a = some n

theorem Sound.linked {g : Graph} (hg : Sound g) : Linked g where
  transpose a b := by rw [mem_edges_iff, hg.transpose]
  source a b h := hg.source (mem_edges_iff.mp h)

theorem linked_edited (edits : List Edit) : Linked (edited edits) := (sound_edited edits).linked

/-- These are the nodes with an edge to the one with number `id`, in the order of their numbers. -/
def Needing (g : Graph) (id : NodeId) (nodes : List Node) : Prop :=
  ∃ ids : List NodeId, ids.Pairwise (· < ·) ∧ (∀ x, x ∈ ids ↔ (x, id) ∈ g.edges)
    ∧ List.Forall₂ (fun x n => g.node? x = some n) ids nodes

theorem Linked.needing_dependents {g : Graph} (hg : Linked g) (id : NodeId) :
    g.Needing id (g.dependents id) := by
  have hmem (x : NodeId) : x ∈ ((g.neededBy.find? id).getD ∅).keys ↔ (x, id) ∈ g.edges := by
    rw [mem_keys_getD, hg.transpose]
  exact ⟨_, SortedMap.keys_lt _, hmem, forall₂_filterMap fun x hx => hg.source x id ((hmem x).mp hx)⟩

/-- The edges stay when a node is replaced. -/
theorem Linked.setNode {g : Graph} (hg : Linked g) (id : NodeId) (n : Node) :
    Linked (g.setNode id n) where
  transpose := hg.transpose
  source a b h := by
    by_cases heq : a = id
    · rw [heq]
      exact ⟨n, node?_setNode_self ..⟩
    · rw [node?_setNode_of_ne g n heq]
      exact hg.source a b h

/-- A node holds the slot of its own requirement only. -/
theorem Sound.slots_injective {g : Graph} (hg : Sound g) {r r' : Requirement} {id : NodeId}
    (h : g.slots.find? r = some id) (h' : g.slots.find? r' = some id) : r = r' := by
  obtain ⟨n, hn, hr, -⟩ := hg.holder h
  obtain ⟨n', hn', hr', -⟩ := hg.holder h'
  cases hn.symm.trans hn'
  exact hr.symm.trans hr'

theorem Sound.nodup_slots {g : Graph} (hg : Sound g) : g.slots.values.Nodup := by
  rw [SortedMap.values, List.Nodup, List.pairwise_map]
  refine g.slots.increasing.imp_of_mem fun {p q} hp hq hlt heq => ?_
  have hq' : g.slots.find? q.1 = some p.2 := by
    rw [heq]
    exact SortedMap.find?_eq_some_iff.mpr hq
  rw [hg.slots_injective (SortedMap.find?_eq_some_iff.mpr hp) hq'] at hlt
  simp at hlt

/-- As many nodes hold a slot as there are slots that are held. -/
theorem Sound.length_runNodes {g : Graph} (hg : Sound g) :
    g.runNodes.length = g.stats.runNodes := by
  have hperm : g.runNodes.Perm g.slots.values := by
    have hnodup : g.runNodes.Nodup := SortedMap.nodup_keys _
    refine (List.perm_ext_iff_of_nodup hnodup hg.nodup_slots).mpr fun id => ?_
    rw [mem_runNodes_iff, SortedMap.mem_values_iff]
  rw [hperm.length_eq, SortedMap.values, List.length_map]
  rfl

/-- What can be relied on in a graph: nodes stand under their own numbers; the two families of edges
are each other's converse, hold no empty set and have known ends only; the nodes that need a node are
found in the order of their numbers; a slot is held by a run, remote or pre-built node of its
requirement, so that no node holds two; and every run node has a slot for its requirement, which it
shares with no other run node. -/
structure Consistent (g : Graph) : Prop where
  id_eq : ∀ id n, g.node? id = some n → n.id = id
  transpose : ∀ a b, (a, b) ∈ g.edges ↔ Links g.neededBy b a
  full : Full g.needs ∧ Full g.neededBy
  endpoints : ∀ a b, (a, b) ∈ g.edges →
    (∃ m, g.node? a = some m) ∧ ∃ n, g.node? b = some n
  dependents_lt : ∀ id, ((g.dependents id).map Node.id).Pairwise (· < ·)
  mem_dependents : ∀ id n, n ∈ g.dependents id ↔ g.node? n.id = some n ∧ (n.id, id) ∈ g.edges
  holder : ∀ r id, g.slots.find? r = some id → ∃ n, g.node? id = some n ∧ n.requirement = r
    ∧ (n.kind = .run ∨ n.kind = .remote ∨ n.kind = .preBuilt)
  slots_injective : ∀ r r' id, g.slots.find? r = some id → g.slots.find? r' = some id → r = r'
  length_runNodes : g.runNodes.length = g.stats.runNodes
  run_slot : ∀ id n, g.node? id = some n → n.kind = .run →
    ∃ id', g.slots.find? n.requirement = some id'
  run_unique : ∀ id id' n n', g.node? id = some n → g.node? id' = some n' → n.kind = .run →
    n'.kind = .run → n.requirement = n'.requirement → id = id'

theorem Sound.consistent {g : Graph} (hg : Sound g) : Consistent g where
  id_eq _ _ := hg.id_eq
  transpose a b := by rw [mem_edges_iff, hg.transpose]
  full := ⟨hg.full_needs, hg.full_neededBy⟩
  endpoints a b h := ⟨hg.source (mem_edges_iff.mp h), hg.target (mem_edges_iff.mp h)⟩
  dependents_lt id := by
    rw [hg.map_id_dependents]
    exact SortedMap.keys_lt _
  mem_dependents _ _ := hg.mem_dependents_iff
  holder _ _ := hg.holder
  slots_injective _ _ _ := hg.slots_injective
  length_runNodes := hg.length_runNodes
  run_slot _ _ := hg.run_slot
  run_unique _ _ _ _ := hg.run_unique

/-- After any edits the parts of a graph agree, and a further edit that is refused, unless it is a
run, leaves the graph as it is. -/
theorem consistent_edited (edits : List Edit) :
    Consistent (edited edits) ∧ ∀ edit : Edit, edit.isResolution = false →
      ∀ e, (edit.apply (edited edits)).1 = .error e →
        (edit.apply (edited edits)).2 = edited edits :=
  ⟨(sound_edited edits).consistent, fun _ hedit _ => apply_of_error (sound_edited edits) hedit⟩

/-! ### Written and read again -/

theorem runSlots_apply {g : Graph} (hg : RunSlots g) {edit : Edit} (hedit : edit.isAddition = true) :
    RunSlots (edit.apply g).2 := by
  cases edit with
  | addNode n => exact (atomic_insertNode n).after hg fun g' h => runSlots_addNode hg h
  | addEdge source target =>
    exact (atomic_insertEdge source target).after hg fun g' h => runSlots_addEdge hg h
  | takeSlot id replacing => cases hedit
  | mergeRemotes => cases hedit
  | resolve run => cases hedit

/-- Only additions leave the slots to the run nodes. -/
theorem runSlots_edited {edits : List Edit} (h : ∀ edit ∈ edits, edit.isAddition = true) :
    RunSlots (edited edits) :=
  edited_induction runSlots_empty fun edit hedit _ hg => runSlots_apply hg (h edit hedit)

/-- Where only run nodes hold slots, the nodes tell the slots. -/
theorem RunSlots.congr {g g' : Graph} (hg : RunSlots g) (hg' : RunSlots g')
    (hnodes : g'.nodes = g.nodes) : g'.slots = g.slots := by
  refine SortedMap.ext_find? fun r => Option.ext fun id => ?_
  rw [hg r id, hg' r id, node?, node?, hnodes]

/-- After any edits a graph that is written can be read again. Its nodes and edges come back, and the
slots are those of its run nodes, which are all its slots if nodes and edges were added only. The
graph that comes back is written as the same text. -/
theorem parse_render_edited (edits : List Edit) :
    ∃ g, parse (edited edits).render = .ok g ∧ g.nodes = (edited edits).nodes
      ∧ g.needs = (edited edits).needs ∧ g.neededBy = (edited edits).neededBy
      ∧ (∀ r id, g.slots.find? r = some id ↔
        ∃ n, (edited edits).node? id = some n ∧ n.kind = .run ∧ n.requirement = r)
      ∧ ((∀ edit ∈ edits, edit.isAddition = true) → g = edited edits)
      ∧ g.render = (edited edits).render := by
  obtain ⟨g, hparse, hnodes, hneeds, hneededBy, hslots⟩ := parse_render_eq_ok (sound_edited edits)
  refine ⟨g, hparse, hnodes, hneeds, hneededBy, fun r id => ?_, fun h => ?_,
    render_congr hnodes hneeds⟩
  · rw [hslots r id, node?, hnodes]
    exact Iff.rfl
  · have hall := (runSlots_edited h).congr hslots hnodes
    cases g
    cases hnodes
    cases hneeds
    cases hneededBy
    cases hall
    rfl

end RpmProvision.Graph
