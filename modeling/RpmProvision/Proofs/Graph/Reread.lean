/-
A graph that is written and read again.

What is read is sound, and only run nodes hold slots in it. A sound graph comes back with the nodes
and edges that it had; what a merge or a resolution did to its slots is lost.

* **`sound_of_parse`**, **`runSlots_of_parse`** — graphs that are read;
* **`build_eq_ok`** — building a graph again from its own nodes and edges;
* **`parse_render_eq_ok`** — the graph that comes back.
-/
import RpmProvision.Proofs.Graph.Build
import RpmProvision.Proofs.Graph.Document

namespace RpmProvision.Graph

theorem sound_of_parse {text : String} {g : Graph} (h : parse text = .ok g) : Sound g := by
  obtain ⟨nodes, edges, v, -, -, hbuild⟩ := parse_eq_ok_iff_shown.mp h
  exact sound_of_build hbuild

theorem runSlots_of_parse {text : String} {g : Graph} (h : parse text = .ok g) : RunSlots g := by
  obtain ⟨nodes, edges, v, -, -, hbuild⟩ := parse_eq_ok_iff_shown.mp h
  exact runSlots_of_build hbuild

/-- The nodes and edges of a sound graph can be in one graph. -/
theorem Sound.wellPosed {g : Graph} (hg : Sound g) : WellPosed g.nodes.values g.edges := by
  have hvalues {n : Node} (hn : n ∈ g.nodes.values) : g.node? n.id = some n := by
    obtain ⟨id, hid⟩ := SortedMap.mem_values_iff.mp hn
    rw [hg.id_eq hid]
    exact hid
  have hids : g.nodes.values.Pairwise fun m n => m.id ≠ n.id := by
    rw [SortedMap.values, List.pairwise_map]
    refine g.nodes.increasing.imp_of_mem fun {p q} hp hq hpq => ?_
    rw [hg.id_eq (SortedMap.find?_eq_some_iff.mpr hp),
      hg.id_eq (SortedMap.find?_eq_some_iff.mpr hq)]
    exact UInt64.ne_of_lt (Std.compare_eq_lt.mp hpq)
  have hend {id : NodeId} (h : ∃ n, g.node? id = some n) : ∃ n ∈ g.nodes.values, n.id = id := by
    obtain ⟨n, hn⟩ := h
    exact ⟨n, SortedMap.mem_values_iff.mpr ⟨id, hn⟩, hg.id_eq hn⟩
  refine ⟨hids, hids.imp_of_mem fun {m n} hm hn hne hmrun hnrun hreq => ?_, fun e he => ?_⟩
  · exact hne (hg.run_unique (hvalues hm) (hvalues hn) hmrun hnrun hreq)
  · have hlinks := mem_edges_iff.mp he
    exact ⟨hend (hg.source hlinks), hend (hg.target hlinks)⟩

/-- A sound graph is built again from its own nodes and edges, and has the same nodes and edges
then. -/
theorem build_eq_ok {g : Graph} (hg : Sound g) : ∃ g', build g.nodes.values g.edges = .ok g'
    ∧ g'.nodes = g.nodes ∧ g'.needs = g.needs ∧ g'.neededBy = g.neededBy := by
  obtain ⟨g', hbuild⟩ := exists_build_iff.mpr hg.wellPosed
  have hholds := holds_of_build hbuild
  have hnodes : g'.nodes = g.nodes := by
    refine SortedMap.ext_find? fun id => Option.ext fun n => (hholds.node id n).trans ?_
    rw [SortedMap.mem_values_iff]
    constructor
    · rintro ⟨⟨id', hid'⟩, rfl⟩
      rw [hg.id_eq hid']
      exact hid'
    · intro hn
      exact ⟨⟨id, hn⟩, hg.id_eq hn⟩
  exact ⟨g', hbuild, hnodes, hg.families_eq (sound_of_build hbuild) hholds.edge⟩

theorem parse_render_of_build {g g' : Graph} (h : build g.nodes.values g.edges = .ok g') :
    parse g.render = .ok g' := by
  rw [parse_render, h]
  rfl

/-- A sound graph that is written is read again: its nodes and edges come back, and the run nodes
hold slots. -/
theorem parse_render_eq_ok {g : Graph} (hg : Sound g) : ∃ g', parse g.render = .ok g'
    ∧ g'.nodes = g.nodes ∧ g'.needs = g.needs ∧ g'.neededBy = g.neededBy ∧ RunSlots g' := by
  obtain ⟨g', hbuild, hrest⟩ := build_eq_ok hg
  have hparse : parse g.render = .ok g' := parse_render_of_build hbuild
  exact ⟨g', hparse, hrest.1, hrest.2.1, hrest.2.2, runSlots_of_parse hparse⟩

/-- The text of a graph is the text of every graph with its nodes and edges. -/
theorem render_congr {g g' : Graph} (hnodes : g'.nodes = g.nodes) (hneeds : g'.needs = g.needs) :
    g'.render = g.render := by
  rw [render, render, toJson, toJson, edges, edges, hnodes, hneeds]

end RpmProvision.Graph
