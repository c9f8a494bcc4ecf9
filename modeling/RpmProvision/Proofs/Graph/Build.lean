/-
Graphs that are built from nodes and edges.

Nodes are added one after another and then edges, and each of them is refused if it contradicts what
is there. So a graph is built exactly from nodes and edges that do not contradict each other. It holds
these nodes and edges, and is known from them.

* **`foldlM_addNode_iff`**, **`foldlM_addEdge_iff`** — what can be added to a graph, and what the graph
  is then;
* **`WellPosed`** — nodes and edges that can be in one graph;
* **`build_eq_ok_iff`** — these are the ones that a graph is built from;
* **`build_ok_induction`** — what holds of every graph that is built;
* **`Holds`**, **`holds_of_build`** — a graph that is built holds what it is built from;
* **`Holds.eq`** — a sound graph is determined by the nodes and edges that it holds.
-/
import RpmProvision.Graph.Document
import RpmProvision.Proofs.Graph.Merge

namespace RpmProvision.Graph

variable {nodes nodes' : List Node} {edges edges' : List (NodeId × NodeId)} {g g' : Graph}

/-! ### One after another -/

theorem foldlM_cons_eq_ok {α : Type} {f : Graph → α → Except GraphFault Graph} {a : α} {l : List α}
    {g g' : Graph} : (a :: l).foldlM f g = .ok g' ↔ ∃ g₁, f g a = .ok g₁ ∧ l.foldlM f g₁ = .ok g' := by
  rw [List.foldlM_cons]
  cases f g a <;> simp [bind, Except.bind]

/-- Nodes that contradict neither each other nor a graph. -/
structure Fits (g : Graph) (nodes : List Node) : Prop where
  ids : nodes.Pairwise fun m n => m.id ≠ n.id
  runs : nodes.Pairwise fun m n => m.kind = .run → n.kind = .run → m.requirement ≠ n.requirement
  fresh : ∀ n ∈ nodes, g.node? n.id = none
  free : ∀ n ∈ nodes, n.kind = .run → g.slots.find? n.requirement = none

theorem fits_cons {n : Node} : Fits g (n :: nodes) ↔ g.node? n.id = none
    ∧ (n.kind = .run → g.slots.find? n.requirement = none) ∧ Fits (g.withNode n) nodes := by
  -- what is free behind the first node is free before it, and is not what the node takes
  have hnode (m : Node) :
      (g.withNode n).node? m.id = none ↔ m.id ≠ n.id ∧ g.node? m.id = none :=
    SortedMap.find?_insert_eq_none_iff
  have hslot (m : Node) : (g.withNode n).slots.find? m.requirement = none ↔
      (n.kind = .run → m.requirement ≠ n.requirement) ∧ g.slots.find? m.requirement = none := by
    by_cases hrun : n.kind = .run
    · rw [withNode, if_pos hrun, SortedMap.find?_insert_eq_none_iff]
      simp [hrun]
    · rw [withNode, if_neg hrun]
      simp [hrun]
  constructor
  · rintro ⟨hids, hruns, hfresh, hfree⟩
    rw [List.pairwise_cons] at hids hruns
    rw [List.forall_mem_cons] at hfresh hfree
    refine ⟨hfresh.1, hfree.1, hids.2, hruns.2, fun m hm => ?_, fun m hm hrun => ?_⟩
    · exact (hnode m).mpr ⟨(hids.1 m hm).symm, hfresh.2 m hm⟩
    · exact (hslot m).mpr ⟨fun hn => (hruns.1 m hm hn hrun).symm, hfree.2 m hm hrun⟩
  · rintro ⟨hnone, hfree, h⟩
    have hfresh := fun m hm => (hnode m).mp (h.fresh m hm)
    have hslots := fun m hm hrun => (hslot m).mp (h.free m hm hrun)
    refine ⟨?_, ?_, ?_, ?_⟩
    · exact List.pairwise_cons.mpr ⟨fun m hm => (hfresh m hm).1.symm, h.ids⟩
    · exact List.pairwise_cons.mpr
        ⟨fun m hm hrun hrun' => ((hslots m hm hrun').1 hrun).symm, h.runs⟩
    · exact List.forall_mem_cons.mpr ⟨hnone, fun m hm => (hfresh m hm).2⟩
    · exact List.forall_mem_cons.mpr ⟨hfree, fun m hm hrun => (hslots m hm hrun).2⟩

/-- Nodes are added one after another if they contradict neither each other nor what is there. -/
theorem foldlM_addNode_iff :
    nodes.foldlM addNode g = .ok g' ↔ Fits g nodes ∧ g' = nodes.foldl withNode g := by
  induction nodes generalizing g with
  | nil =>
    have hfits : Fits g [] := ⟨.nil, .nil, by simp, by simp⟩
    constructor
    · intro h
      cases h
      exact ⟨hfits, rfl⟩
    · rintro ⟨-, rfl⟩
      rfl
  | cons n rest ih =>
    rw [foldlM_cons_eq_ok, List.foldl_cons, fits_cons]
    constructor
    · rintro ⟨g₁, hadd, hrest⟩
      obtain ⟨hnone, hfree, rfl⟩ := addNode_eq_ok.mp hadd
      obtain ⟨hfits, heq⟩ := ih.mp hrest
      exact ⟨⟨hnone, hfree, hfits⟩, heq⟩
    · rintro ⟨⟨hnone, hfree, hfits⟩, heq⟩
      exact ⟨g.withNode n, addNode_eq_ok.mpr ⟨hnone, hfree, rfl⟩, ih.mpr ⟨hfits, heq⟩⟩

/-- Edges are added one after another if their ends are there. -/
theorem foldlM_addEdge_iff : edges.foldlM (fun g e => g.addEdge e.1 e.2) g = .ok g' ↔
    (∀ e ∈ edges, (∃ n, g.node? e.1 = some n) ∧ ∃ n, g.node? e.2 = some n)
      ∧ g' = edges.foldl withEdge g := by
  induction edges generalizing g with
  | nil =>
    constructor
    · intro h
      cases h
      exact ⟨by simp, rfl⟩
    · rintro ⟨-, rfl⟩
      rfl
  | cons e rest ih =>
    rw [foldlM_cons_eq_ok, List.foldl_cons, List.forall_mem_cons]
    constructor
    · rintro ⟨g₁, hadd, hrest⟩
      obtain ⟨hsource, htarget, rfl⟩ := addEdge_eq_ok.mp hadd
      obtain ⟨hends, heq⟩ := ih.mp hrest
      exact ⟨⟨⟨hsource, htarget⟩, hends⟩, heq⟩
    · rintro ⟨⟨⟨hsource, htarget⟩, hends⟩, heq⟩
      exact ⟨g.withEdge e, addEdge_eq_ok.mpr ⟨hsource, htarget, rfl⟩, ih.mpr ⟨hends, heq⟩⟩

/-! ### What is there afterwards -/

/-- Nodes are found under their own numbers once they have been added, if no two have one number. -/
theorem node?_foldl_withNode (hids : nodes.Pairwise fun m n => m.id ≠ n.id) (id : NodeId) (n : Node) :
    (nodes.foldl withNode empty).node? id = some n ↔ n ∈ nodes ∧ n.id = id := by
  have hmap : (nodes.foldl withNode empty).nodes
      = SortedMap.ofList (nodes.map fun n => (n.id, n)) := by
    rw [SortedMap.ofList, List.foldl_map]
    exact (List.foldl_hom Graph.nodes fun _ _ => rfl).symm
  have hnodup : ((nodes.map fun n => (n.id, n)).map Prod.fst).Nodup := by
    rw [List.map_map, List.Nodup, List.pairwise_map]
    exact hids
  rw [node?, hmap, SortedMap.find?_ofList_iff hnodup, List.mem_map]
  constructor
  · rintro ⟨m, hm, heq⟩
    cases heq
    exact ⟨hm, rfl⟩
  · rintro ⟨hn, rfl⟩
    exact ⟨n, hn, rfl⟩

theorem needs_foldl_withNode : (nodes.foldl withNode g).needs = g.needs := by
  induction nodes generalizing g with
  | nil => rfl
  | cons n rest ih => exact ih

theorem nodes_foldl_withEdge : (edges.foldl withEdge g).nodes = g.nodes := by
  induction edges generalizing g with
  | nil => rfl
  | cons e rest ih => exact ih

theorem links_foldl_withEdge {a b : NodeId} :
    Links (edges.foldl withEdge g).needs a b ↔ (a, b) ∈ edges ∨ Links g.needs a b := by
  induction edges generalizing g with
  | nil => simp
  | cons e rest ih =>
    rw [List.foldl_cons, ih, links_needs_withEdge, List.mem_cons, Prod.ext_iff]
    tauto

/-! ### What a graph is built from -/

/-- Nodes and edges that can be in one graph: no two nodes have one number, no two run nodes have one
requirement, and every edge is between two of the nodes. -/
structure WellPosed (nodes : List Node) (edges : List (NodeId × NodeId)) : Prop where
  ids : nodes.Pairwise fun m n => m.id ≠ n.id
  runs : nodes.Pairwise fun m n => m.kind = .run → n.kind = .run → m.requirement ≠ n.requirement
  ends : ∀ e ∈ edges, (∃ n ∈ nodes, n.id = e.1) ∧ ∃ n ∈ nodes, n.id = e.2

theorem build_steps_iff {nodes : List Node} {edges : List (NodeId × NodeId)} {g : Graph} :
    build nodes edges = .ok g ↔ ∃ g₁, nodes.foldlM addNode empty = .ok g₁
      ∧ edges.foldlM (fun g e => g.addEdge e.1 e.2) g₁ = .ok g := by
  rw [build]
  cases nodes.foldlM addNode empty <;> simp [bind, Except.bind]

/-- A graph is built from nodes and edges exactly if they can be in one graph. -/
theorem build_eq_ok_iff : build nodes edges = .ok g ↔
    WellPosed nodes edges ∧ g = edges.foldl withEdge (nodes.foldl withNode empty) := by
  -- nothing stands in the way of the nodes, and they are there when the edges are added
  have hfits (h : WellPosed nodes edges) : Fits empty nodes :=
    ⟨h.ids, h.runs, fun _ _ => rfl, fun _ _ _ => rfl⟩
  have hends (hids : nodes.Pairwise fun m n => m.id ≠ n.id) (id : NodeId) :
      (∃ n, (nodes.foldl withNode empty).node? id = some n) ↔ ∃ n ∈ nodes, n.id = id := by
    simp only [node?_foldl_withNode hids]
  rw [build_steps_iff]
  constructor
  · rintro ⟨g₁, hnodes, hedges⟩
    obtain ⟨h, rfl⟩ := foldlM_addNode_iff.mp hnodes
    obtain ⟨hthere, rfl⟩ := foldlM_addEdge_iff.mp hedges
    refine ⟨⟨h.ids, h.runs, fun e he => ?_⟩, rfl⟩
    rw [← hends h.ids, ← hends h.ids]
    exact hthere e he
  · rintro ⟨h, rfl⟩
    refine ⟨_, foldlM_addNode_iff.mpr ⟨hfits h, rfl⟩,
      foldlM_addEdge_iff.mpr ⟨fun e he => ?_, rfl⟩⟩
    rw [hends h.ids, hends h.ids]
    exact h.ends e he

theorem exists_build_iff : (∃ g, build nodes edges = .ok g) ↔ WellPosed nodes edges := by
  constructor
  · rintro ⟨g, h⟩
    exact (build_eq_ok_iff.mp h).1
  · intro h
    exact ⟨_, build_eq_ok_iff.mpr ⟨h, rfl⟩⟩

theorem foldlM_ok_induction {α : Type} {P : Graph → Prop} {f : Graph → α → Except GraphFault Graph}
    (hf : ∀ {g g' a}, P g → f g a = .ok g' → P g') {l : List α} {g g' : Graph} (hg : P g)
    (h : l.foldlM f g = .ok g') : P g' := by
  induction l generalizing g with
  | nil =>
    cases h
    exact hg
  | cons a rest ih =>
    obtain ⟨g₁, ha, hrest⟩ := foldlM_cons_eq_ok.mp h
    exact ih (hf hg ha) hrest

/-- A property of the empty graph that additions keep holds of every graph that is built. -/
theorem build_ok_induction {P : Graph → Prop} (hempty : P empty)
    (hnode : ∀ {g g' n}, P g → g.addNode n = .ok g' → P g')
    (hedge : ∀ {g g' a b}, P g → g.addEdge a b = .ok g' → P g') {nodes : List Node}
    {edges : List (NodeId × NodeId)} {g : Graph} (h : build nodes edges = .ok g) : P g := by
  obtain ⟨g₁, hnodes, hedges⟩ := build_steps_iff.mp h
  exact foldlM_ok_induction hedge (foldlM_ok_induction hnode hempty hnodes) hedges

theorem runSlots_empty : RunSlots empty := by
  intro r id
  constructor
  · intro h
    cases h
  · rintro ⟨n, hn, -⟩
    cases hn

theorem runSlots_addNode {g g' : Graph} {n : Node} (hslots : RunSlots g)
    (h : g.addNode n = .ok g') : RunSlots g' := by
  intro r id
  rw [slot_of_addNode h, hslots r id]
  simp only [node?_of_addNode h]
  constructor
  · rintro (⟨hrun, rfl, rfl⟩ | ⟨m, hm, hkind, hreq⟩)
    · exact ⟨n, .inl ⟨rfl, rfl⟩, hrun, rfl⟩
    · exact ⟨m, .inr hm, hkind, hreq⟩
  · rintro ⟨m, ⟨rfl, rfl⟩ | hm, hkind, hreq⟩
    · exact .inl ⟨hkind, hreq.symm, rfl⟩
    · exact .inr ⟨m, hm, hkind, hreq⟩

theorem runSlots_addEdge {g g' : Graph} {a b : NodeId} (hslots : RunSlots g)
    (h : g.addEdge a b = .ok g') : RunSlots g' := by
  obtain ⟨-, -, rfl⟩ := addEdge_eq_ok.mp h
  exact hslots

/-! ### What a graph holds -/

/-- The graph holds these nodes and edges, its two families of edges agree, and its slots are those
of the run nodes. -/
structure Holds (nodes : List Node) (edges : List (NodeId × NodeId)) (g : Graph) : Prop where
  node : ∀ id n, g.node? id = some n ↔ n ∈ nodes ∧ n.id = id
  edge : ∀ a b, (a, b) ∈ g.edges ↔ (a, b) ∈ edges
  reverse : ∀ a b, Links g.neededBy b a ↔ (a, b) ∈ edges
  slot : ∀ r id, g.slots.find? r = some id ↔
    ∃ n ∈ nodes, n.id = id ∧ n.kind = .run ∧ n.requirement = r

theorem WellPosed.congr (h : WellPosed nodes edges) (hnodes : nodes'.Perm nodes)
    (hedges : ∀ e, e ∈ edges' ↔ e ∈ edges) : WellPosed nodes' edges' where
  ids := (hnodes.pairwise_iff fun hne => hne.symm).mpr h.ids
  runs := (hnodes.pairwise_iff fun hne hrun hrun' => (hne hrun' hrun).symm).mpr h.runs
  ends e he := by
    simp only [hnodes.mem_iff]
    exact h.ends e ((hedges e).mp he)

theorem Holds.congr (h : Holds nodes edges g) (hnodes : nodes'.Perm nodes)
    (hedges : ∀ e, e ∈ edges' ↔ e ∈ edges) : Holds nodes' edges' g where
  node id n := by rw [hnodes.mem_iff, h.node]
  edge a b := by rw [hedges, h.edge]
  reverse a b := by rw [hedges, h.reverse]
  slot r id := by
    simp only [hnodes.mem_iff]
    exact h.slot r id

/-- A graph that is built is sound, and the run nodes hold its slots. -/
theorem sound_of_build (h : build nodes edges = .ok g) : Sound g :=
  build_ok_induction sound_empty sound_addNode sound_addEdge h

theorem runSlots_of_build (h : build nodes edges = .ok g) : RunSlots g :=
  build_ok_induction runSlots_empty runSlots_addNode runSlots_addEdge h

/-- A graph that is built holds the nodes and edges that it is built from. -/
theorem holds_of_build (h : build nodes edges = .ok g) : Holds nodes edges g := by
  obtain ⟨hwell, heq⟩ := build_eq_ok_iff.mp h
  have hnode (id : NodeId) (n : Node) : g.node? id = some n ↔ n ∈ nodes ∧ n.id = id := by
    rw [heq, node?, nodes_foldl_withEdge]
    exact node?_foldl_withNode hwell.ids id n
  have hedge (a b : NodeId) : Links g.needs a b ↔ (a, b) ∈ edges := by
    rw [heq, links_foldl_withEdge, needs_foldl_withNode]
    exact or_iff_left (not_links_empty a b)
  refine ⟨hnode, fun a b => mem_edges_iff.trans (hedge a b), fun a b => ?_, fun r id => ?_⟩
  · exact (sound_of_build h).transpose.symm.trans (hedge a b)
  · rw [runSlots_of_build h r id]
    simp only [hnode]
    constructor
    · rintro ⟨n, ⟨hmem, hid⟩, hrun, hreq⟩
      exact ⟨n, hmem, hid, hrun, hreq⟩
    · rintro ⟨n, hmem, hid, hrun, hreq⟩
      exact ⟨n, ⟨hmem, hid⟩, hrun, hreq⟩

/-- Sound graphs with the same edges have the same families. -/
theorem Sound.families_eq (hg : Sound g) (hg' : Sound g')
    (h : ∀ a b, (a, b) ∈ g'.edges ↔ (a, b) ∈ g.edges) :
    g'.needs = g.needs ∧ g'.neededBy = g.neededBy := by
  simp only [mem_edges_iff] at h
  refine ⟨ext_links hg'.full_needs hg.full_needs h, ?_⟩
  refine ext_links hg'.full_neededBy hg.full_neededBy fun b a => ?_
  rw [← hg'.transpose, ← hg.transpose, h]

/-- A sound graph is determined by the nodes and edges that it holds. -/
theorem Holds.eq (h : Holds nodes edges g) (h' : Holds nodes edges g') (hg : Sound g)
    (hg' : Sound g') : g' = g := by
  have hnodes : g'.nodes = g.nodes :=
    SortedMap.ext_find? fun id => Option.ext fun n => (h'.node id n).trans (h.node id n).symm
  have hslots : g'.slots = g.slots :=
    SortedMap.ext_find? fun r => Option.ext fun id => (h'.slot r id).trans (h.slot r id).symm
  obtain ⟨hneeds, hneededBy⟩ := hg.families_eq hg' fun a b => (h'.edge a b).trans (h.edge a b).symm
  cases g
  cases hnodes
  cases hneeds
  cases hneededBy
  cases hslots
  rfl

end RpmProvision.Graph
