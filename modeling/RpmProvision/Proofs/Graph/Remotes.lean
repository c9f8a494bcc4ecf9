/-
Merging remote nodes.

Remote nodes take slots by hand or in a merge, before and after nodes are added. Whatever was done
before, a merge ends with the same holder for each requirement, a second merge with the same graph,
and so does a merge of the graph that comes back when the graph is written and read.

* **`runOrRemote_edited`** — the holders of slots as long as no node has been resolved;
* **`Merged`** — what a merge makes of a graph;
* **`mergeRemotes_edited`** — merges of a graph that comes about by edits.
-/
import RpmProvision.Proofs.Graph.Advance
import RpmProvision.Proofs.Graph.Edits

namespace RpmProvision.Graph

open Step

/-! ### Holders of slots -/

theorem runOrRemote_addNode {g g' : Graph} {n : Node} (hg : RunOrRemote g)
    (h : g.addNode n = .ok g') : RunOrRemote g' := by
  intro r id hr
  rcases (slot_of_addNode h).mp hr with ⟨hrun, -, rfl⟩ | hr
  · exact ⟨n, (node?_of_addNode h).mpr (.inl ⟨rfl, rfl⟩), .inl hrun⟩
  · obtain ⟨m, hm, hkind⟩ := hg r id hr
    exact ⟨m, (node?_of_addNode h).mpr (.inr hm), hkind⟩

theorem runOrRemote_giveSlot {g : Graph} (hg : RunOrRemote g) {id : NodeId} {n : Node}
    (hn : g.node? id = some n) (hkind : n.kind = .remote) :
    RunOrRemote { g with slots := g.slots.insert n.requirement id } := by
  intro r id' hr
  by_cases hreq : r = n.requirement
  · rw [hreq, SortedMap.find?_insert_self] at hr
    cases hr
    exact ⟨n, hn, .inr hkind⟩
  · rw [SortedMap.find?_insert_of_ne _ _ hreq] at hr
    exact hg r id' hr

theorem RunOrRemote.merged {g : Graph} (hsound : Sound g) (hg : RunOrRemote g) :
    RunOrRemote g.merged := by
  intro r id hr
  rcases (find?_merged hsound).mp hr with ⟨n, hn, -, hkind, -⟩ | ⟨-, hr⟩
  · exact ⟨n, hn, .inr hkind⟩
  · exact hg r id hr

/-- An edit that resolves no node leaves the slots to run nodes and remote nodes. -/
theorem runOrRemote_apply {g : Graph} (hsound : Sound g) (hg : RunOrRemote g) {edit : Edit}
    (hedit : edit.isResolution = false) : RunOrRemote (edit.apply g).2 := by
  cases edit with
  | addNode n => exact (atomic_insertNode n).after hg fun g' h => runOrRemote_addNode hg h
  | addEdge source target =>
    refine (atomic_insertEdge source target).after hg fun g' h => ?_
    obtain ⟨-, -, rfl⟩ := addEdge_eq_ok.mp h
    exact hg
  | takeSlot id replacing =>
    show RunOrRemote (takeSlot id replacing ⟨g, []⟩).2.graph
    rcases takeSlot_cases id replacing ⟨g, []⟩ with h | ⟨n, hn, hkind, -, h⟩
    · rw [h]
      exact hg
    · rw [h]
      exact runOrRemote_giveSlot hg hn hkind
  | mergeRemotes =>
    obtain ⟨events, h⟩ := mergeRemotes_apply hsound []
    show RunOrRemote (Graph.mergeRemotes ⟨g, []⟩).2.graph
    rw [h]
    exact hg.merged hsound
  | resolve run => cases hedit

theorem runOrRemote_edited {edits : List Edit} (h : ∀ edit ∈ edits, edit.isResolution = false) :
    RunOrRemote (edited edits) := by
  -- a merge keeps the property only of a sound graph
  have hboth : Sound (edited edits) ∧ RunOrRemote (edited edits) :=
    edited_induction (P := fun g => Sound g ∧ RunOrRemote g)
      ⟨sound_empty, runSlots_empty.runOrRemote⟩ fun edit hedit g hg =>
        ⟨sound_apply hg.1 edit, runOrRemote_apply hg.1 hg.2 (h edit hedit)⟩
  exact hboth.2

/-! ### A merge and its repetition -/

/-- The remote node of a requirement with the greatest number. -/
structure LastRemote (g : Graph) (r : Requirement) (id : NodeId) : Prop where
  remote : ∃ n, g.node? id = some n ∧ n.kind = .remote ∧ n.requirement = r
  greatest : ∀ id' n, g.node? id' = some n → n.kind = .remote → n.requirement = r → id' ≤ id

/-- What a merge makes of a graph: the slot of a requirement with remote nodes is held by the last of
them, and everything else is as before. -/
structure Merged (g g' : Graph) : Prop where
  nodes : g'.nodes = g.nodes
  needs : g'.needs = g.needs
  neededBy : g'.neededBy = g.neededBy
  slot_of_remote : ∀ id n, g.node? id = some n → n.kind = .remote →
    ∃ id', LastRemote g n.requirement id' ∧ g'.slots.find? n.requirement = some id'
  slot_of_others : ∀ r, (∀ id n, g.node? id = some n → n.kind = .remote → n.requirement ≠ r) →
    g'.slots.find? r = g.slots.find? r

/-- Whatever has been logged, a merge of the graph ends with the other one and tells the number of
remote nodes. -/
def MergesTo (g g' : Graph) : Prop :=
  ∀ events, ∃ events', mergeRemotes ⟨g, events⟩
    = (.ok (g.nodes.values.countP fun n => n.kind = .remote), ⟨g', events'⟩)

theorem length_remotes (g : Graph) :
    g.remotes.length = g.nodes.values.countP fun n => n.kind = .remote := by
  rw [remotes, List.length_map, List.countP_eq_length_filter]

theorem mergesTo_merged {g : Graph} (hg : Sound g) : MergesTo g g.merged := by
  intro events
  obtain ⟨events', h⟩ := mergeRemotes_apply hg events
  exact ⟨events', by rw [h, length_remotes]⟩

theorem merged_merged_of_sound {g : Graph} (hg : Sound g) : Merged g g.merged where
  nodes := rfl
  needs := rfl
  neededBy := rfl
  slot_of_remote id n hn hkind := by
    -- the slot of a remote node is held after a merge, and not by a node that is no remote one
    have hid := hg.id_eq hn
    have hnode : g.node? n.id = some n := by rw [hid, hn]
    obtain ⟨id', hid'⟩ : ∃ id', g.merged.slots.find? n.requirement = some id' :=
      held_of_remote ((mem_remoteNodes_iff hg.id_eq).mpr ⟨hnode, hkind⟩)
    refine ⟨id', ?_, hid'⟩
    rcases (find?_merged hg).mp hid' with ⟨m, hm, hreq, hmkind, hmax⟩ | ⟨hnone, -⟩
    · refine ⟨⟨m, hm, hmkind, hreq⟩, fun i k hk hkkind hkreq => ?_⟩
      have hi := hg.id_eq hk
      rw [← hi] at hk ⊢
      exact hmax k hk hkreq hkkind
    · exact absurd hkind (hnone n hnode rfl)
  slot_of_others r hr := by
    refine Option.ext fun id => ?_
    rw [find?_merged hg]
    constructor
    · rintro (⟨n, hn, hreq, hkind, -⟩ | ⟨-, h⟩)
      · exact absurd hreq (hr id n hn hkind)
      · exact h
    · exact fun h => .inr ⟨fun m hm hreq hkind => hr m.id m hm hkind hreq, h⟩

/-- The slots after a merge depend on the nodes only. -/
theorem merged_slots_congr {g g' : Graph} (hg : Sound g) (hg' : Sound g') (hslots : RunOrRemote g)
    (hslots' : RunOrRemote g') (hnodes : g'.nodes = g.nodes) :
    g'.merged.slots = g.merged.slots := by
  refine SortedMap.ext_find? fun r => Option.ext fun id => ?_
  rw [find?_merged_of_runOrRemote hg' hslots', find?_merged_of_runOrRemote hg hslots]
  exact exists_congr fun n => and_congr_left fun _ => ⟨.congr hnodes.symm, .congr hnodes⟩

/-- A merge of a merged graph does not change it. -/
theorem merged_merged {g : Graph} (hg : Sound g) (hslots : RunOrRemote g) :
    g.merged.merged = g.merged := by
  have hagain : g.merged.merged.slots = g.merged.slots :=
    merged_slots_congr hg hg.merged hslots (hslots.merged hg) rfl
  show { g.merged with slots := g.merged.merged.slots } = g.merged
  rw [hagain]

/-- Whatever nodes and edges were added and whatever slots were taken before, a merge is not refused.
It tells the number of remote nodes, and gives each of their slots to the last one of them. A second
merge leaves the graph as it is. The graph that comes back from its text has the same slots after a
merge, even if remote nodes had taken slots before it was written. -/
theorem mergeRemotes_edited {edits : List Edit}
    (h : ∀ edit ∈ edits, edit.isResolution = false) :
    ∃ g', MergesTo (edited edits) g' ∧ Merged (edited edits) g' ∧ MergesTo g' g'
      ∧ ∃ read read', parse (edited edits).render = .ok read ∧ MergesTo read read'
        ∧ read'.slots = g'.slots := by
  have hsound := sound_edited edits
  have hslots := runOrRemote_edited h
  obtain ⟨read, hparse, hnodes, -, -, hread⟩ := parse_render_eq_ok hsound
  have hagain := mergesTo_merged hsound.merged
  rw [merged_merged hsound hslots] at hagain
  exact ⟨(edited edits).merged, mergesTo_merged hsound, merged_merged_of_sound hsound, hagain,
    read, read.merged, hparse, mergesTo_merged (sound_of_parse hparse),
    merged_slots_congr hsound (sound_of_parse hparse) hslots hread.runOrRemote hnodes⟩

/-- A run node and two remote nodes of one requirement. One of them takes the slot by hand. -/
def twoRemotes : List Edit :=
  [.addNode (Resolution.wantedRun 0 "zlib" false),
    .addNode { Resolution.wantedRun 1 "zlib" false with kind := .remote },
    .addNode { Resolution.wantedRun 2 "zlib" false with kind := .remote }, .takeSlot 1 true]

theorem mergeRemotes_twoRemotes :
    (∀ edit ∈ twoRemotes, edit.isResolution = false)
      ∧ (edited twoRemotes).slots.find? ⟨"zlib", none, none⟩ = some 1
      ∧ ∃ g', MergesTo (edited twoRemotes) g' ∧ Merged (edited twoRemotes) g' ∧ MergesTo g' g'
        ∧ g'.slots.find? ⟨"zlib", none, none⟩ = some 2 := by
  have hedits : ∀ edit ∈ twoRemotes, edit.isResolution = false := by decide
  obtain ⟨g', hmerge, hmerged, hagain, -⟩ := mergeRemotes_edited hedits
  refine ⟨hedits, rfl, g', hmerge, hmerged, hagain, ?_⟩
  obtain ⟨events, hrun⟩ := hmerge []
  have hgraph : (mergeRemotes ⟨edited twoRemotes, []⟩).2.graph = g' := by rw [hrun]
  rw [← hgraph]
  rfl

end RpmProvision.Graph
