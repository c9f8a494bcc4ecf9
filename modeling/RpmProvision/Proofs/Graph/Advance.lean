/-
What a resolution may do to a graph.

It may give an RPM to nodes that want one. Edges, slots and all other nodes stay, and a node that
has an RPM does not change again.

* **`Advances`** — the relation between a graph and what a resolution made of it;
* **`Sound.advance`** — such a change keeps a graph sound;
* **`Heir.advance`** — an heir stays the heir unless it has become pre-built;
* **`unresolvedRunNodes_merged_eq_nil`** — when nothing is left to do for the graph that comes out.
-/
import RpmProvision.Proofs.Graph.Merge
import RpmProvision.Proofs.Resolution.Node

namespace RpmProvision.Graph

/-- Some of the given nodes that wanted an RPM have got one, and nothing else has changed. -/
structure Advances (ids : List NodeId) (g g' : Graph) : Prop where
  needs : g'.needs = g.needs
  neededBy : g'.neededBy = g.neededBy
  slots : g'.slots = g.slots
  node : ∀ id, g'.node? id = g.node? id ∨ id ∈ ids ∧ ∃ n rpm fromToolchain, g.node? id = some n
    ∧ n.state = .unresolved ∧ g'.node? id = some (n.resolved rpm fromToolchain)

namespace Advances

variable {ids : List NodeId} {g g' g'' : Graph}

theorem refl (ids : List NodeId) (g : Graph) : Advances ids g g := ⟨rfl, rfl, rfl, fun _ => .inl rfl⟩

theorem trans (h : Advances ids g g') (h' : Advances ids g' g'') : Advances ids g g'' := by
  refine ⟨h'.needs.trans h.needs, h'.neededBy.trans h.neededBy, h'.slots.trans h.slots,
    fun id => ?_⟩
  rcases h.node id with heq | ⟨hid, n, rpm, b, hn, hstate, hres⟩
  · rcases h'.node id with heq' | ⟨hid, n, rpm, b, hn, hstate, hres⟩
    · exact .inl (heq'.trans heq)
    · exact .inr ⟨hid, n, rpm, b, by rw [← heq, hn], hstate, hres⟩
  · rcases h'.node id with heq' | ⟨-, n', -, -, hn', hstate', -⟩
    · exact .inr ⟨hid, n, rpm, b, hn, hstate, by rw [heq', hres]⟩
    · -- a resolved node does not want an RPM any more
      rw [hres] at hn'
      cases hn'
      exact absurd hstate' (Resolution.resolved_state_ne_unresolved n rpm b)

theorem setNode {id : NodeId} {n : Node} (hid : id ∈ ids) (hn : g.node? id = some n)
    (hstate : n.state = .unresolved) (rpm : Path) (fromToolchain : Bool) :
    Advances ids g (g.setNode id (n.resolved rpm fromToolchain)) := by
  refine ⟨rfl, rfl, rfl, fun id' => ?_⟩
  by_cases heq : id' = id
  · rw [heq, node?_setNode_self]
    exact .inr ⟨hid, n, rpm, fromToolchain, hn, hstate, rfl⟩
  · exact .inl (node?_setNode_of_ne g _ heq)

/-- A node of the graph afterwards has the number and the requirement that it had, and its kind
unless it is pre-built now. -/
theorem exists_before (h : Advances ids g g') {id : NodeId} {n' : Node}
    (hn' : g'.node? id = some n') : ∃ n, g.node? id = some n ∧ n'.id = n.id
      ∧ n'.requirement = n.requirement ∧ (n'.kind = n.kind ∨ n'.kind = .preBuilt) := by
  rcases h.node id with heq | ⟨-, n, rpm, b, hn, -, hres⟩
  · rw [heq] at hn'
    exact ⟨n', hn', rfl, rfl, .inl rfl⟩
  · rw [hres] at hn'
    cases hn'
    refine ⟨n, hn, Resolution.resolved_id .., Resolution.resolved_requirement .., ?_⟩
    rw [Resolution.resolved_kind]
    cases b <;> simp

theorem exists_after (h : Advances ids g g') {id : NodeId} (hn : ∃ n, g.node? id = some n) :
    ∃ n, g'.node? id = some n := by
  rcases h.node id with heq | ⟨-, _, _, _, -, -, hres⟩
  · rw [heq]
    exact hn
  · exact ⟨_, hres⟩

/-- A run node afterwards was a run node of the same requirement. -/
theorem run_before (h : Advances ids g g') {id : NodeId} {n' : Node} (hn' : g'.node? id = some n')
    (hkind : n'.kind = .run) :
    ∃ n, g.node? id = some n ∧ n.kind = .run ∧ n.requirement = n'.requirement := by
  obtain ⟨n, hn, -, hreq, hk | hk⟩ := h.exists_before hn'
  · exact ⟨n, hn, hk.symm.trans hkind, hreq.symm⟩
  · rw [hkind] at hk
    cases hk

end Advances

/-- What a resolution does to a graph keeps it sound. -/
theorem Sound.advance {ids : List NodeId} {g g' : Graph} (hg : Sound g) (h : Advances ids g g') :
    Sound g' := by
  refine { id_eq := ?_, full_needs := ?_, full_neededBy := ?_, transpose := ?_, source := ?_,
           target := ?_, holder := ?_, run_slot := ?_, run_unique := ?_ }
  · intro id n hn
    obtain ⟨m, hm, hid, -⟩ := h.exists_before hn
    rw [hid, hg.id_eq hm]
  · rw [h.needs]
    exact hg.full_needs
  · rw [h.neededBy]
    exact hg.full_neededBy
  · intro a b
    rw [h.needs, h.neededBy]
    exact hg.transpose
  · intro a b hab
    rw [h.needs] at hab
    exact h.exists_after (hg.source hab)
  · intro a b hab
    rw [h.needs] at hab
    exact h.exists_after (hg.target hab)
  · intro r id hr
    rw [h.slots] at hr
    obtain ⟨n, hn, hreq, hkind⟩ := hg.holder hr
    -- a pre-built node may hold a slot as well, so the holder may have become one
    obtain ⟨n', hn'⟩ := h.exists_after ⟨n, hn⟩
    obtain ⟨m, hm, -, hreq', hkind'⟩ := h.exists_before hn'
    cases hn.symm.trans hm
    refine ⟨n', hn', hreq'.trans hreq, ?_⟩
    rcases hkind' with hk | hk
    · rw [hk]
      exact hkind
    · exact .inr (.inr hk)
  · intro id n hn hkind
    obtain ⟨m, hm, hmkind, hreq⟩ := h.run_before hn hkind
    rw [h.slots, ← hreq]
    exact hg.run_slot hm hmkind
  · intro i j m n hm hn hmkind hnkind hreq
    obtain ⟨m', hm', hmkind', hmreq⟩ := h.run_before hm hmkind
    obtain ⟨n', hn', hnkind', hnreq⟩ := h.run_before hn hnkind
    exact hg.run_unique hm' hn' hmkind' hnkind' (by rw [hmreq, hnreq, hreq])

/-! ### Heirs -/

/-- Heirs are a matter of the nodes. -/
theorem Heir.congr {g g' : Graph} {r : Requirement} {n : Node} (hnodes : g'.nodes = g.nodes)
    (h : Heir g r n) : Heir g' r n := by
  have hnode (id : NodeId) : g'.node? id = g.node? id := by
    rw [node?, node?, hnodes]
  refine ⟨by rw [hnode, h.node], h.requirement, ?_⟩
  rcases h.first with ⟨hkind, hmax⟩ | ⟨hkind, hnone⟩
  · refine .inl ⟨hkind, fun m hm => hmax m ?_⟩
    rw [← hnode, hm]
  · refine .inr ⟨hkind, fun m hm => hnone m ?_⟩
    rw [← hnode, hm]

/-- An heir that keeps its kind stays the heir. -/
theorem Heir.advance {ids : List NodeId} {g g' : Graph} {r : Requirement} {h h' : Node}
    (hheir : Heir g r h) (hadv : Advances ids g g') (hid : h'.id = h.id)
    (hnode : g'.node? h'.id = some h') (hreq : h'.requirement = h.requirement)
    (hkind : h'.kind = h.kind) : Heir g' r h' := by
  -- a remote node afterwards was a remote node of the same requirement
  have hremote : ∀ m, g'.node? m.id = some m → m.requirement = r → m.kind = .remote →
      ∃ m₀, g.node? m₀.id = some m₀ ∧ m₀.id = m.id ∧ m₀.requirement = r ∧ m₀.kind = .remote := by
    intro m hm hmreq hmkind
    obtain ⟨m₀, hm₀, hmid, hreq₀, hkind₀ | hkind₀⟩ := hadv.exists_before hm
    · refine ⟨m₀, ?_, hmid.symm, hreq₀.symm.trans hmreq, hkind₀.symm.trans hmkind⟩
      rw [← hmid]
      exact hm₀
    · rw [hmkind] at hkind₀
      cases hkind₀
  refine ⟨hnode, hreq.trans hheir.requirement, ?_⟩
  rcases hheir.first with ⟨hk, hmax⟩ | ⟨hk, hnone⟩
  · refine .inl ⟨hkind.trans hk, fun m hm hmreq hmkind => ?_⟩
    obtain ⟨m₀, hm₀, hmid, hmreq₀, hmkind₀⟩ := hremote m hm hmreq hmkind
    rw [hid, ← hmid]
    exact hmax m₀ hm₀ hmreq₀ hmkind₀
  · refine .inr ⟨hkind.trans hk, fun m hm hmreq hmkind => ?_⟩
    obtain ⟨m₀, hm₀, -, hmreq₀, hmkind₀⟩ := hremote m hm hmreq hmkind
    exact hnone m₀ hm₀ hmreq₀ hmkind₀

/-- A requirement has an heir if it has a run node or a remote node. -/
theorem exists_heir {g : Graph} (hg : Sound g) (hslots : RunSlots g) {n : Node}
    (hn : g.node? n.id = some n) (hkind : n.kind = .run ∨ n.kind = .remote) :
    ∃ h, Heir g n.requirement h := by
  obtain ⟨id, hid⟩ : ∃ id, g.merged.slots.find? n.requirement = some id := by
    rcases hkind with hkind | hkind
    · exact held_takenBy (hg.run_slot hn hkind)
    · exact held_of_remote ((mem_remoteNodes_iff hg.id_eq).mpr ⟨hn, hkind⟩)
  obtain ⟨h, hheir, -⟩ := (find?_merged_of_runSlots hg hslots).mp hid
  exact ⟨h, hheir⟩

/-- An heir that wants an RPM is among the nodes that a run starts from. -/
theorem Heir.mem_unresolvedRunNodes {g : Graph} (hg : Sound g) (hslots : RunSlots g)
    {r : Requirement} {h : Node} (hheir : Heir g r h) (hstate : h.state = .unresolved) :
    h.id ∈ g.merged.unresolvedRunNodes :=
  mem_unresolvedRunNodes_iff.mpr
    ⟨⟨r, (find?_merged_of_runSlots hg hslots).mpr ⟨h, hheir, rfl⟩⟩, h, hheir.node, hstate⟩

/-- Suppose that in a graph that was read, all nodes that a run starts from get an RPM. In the graph
that comes out, once it is read again, nothing is left to do exactly if no requirement of a node that
has become pre-built has an heir that wants an RPM. -/
theorem unresolvedRunNodes_merged_eq_nil {g₀ g₁ g₂ : Graph} (h₀ : Sound g₀) (hslots₀ : RunSlots g₀)
    (hadv : Advances g₀.merged.unresolvedRunNodes g₀.merged g₁)
    (hall : ∀ id ∈ g₀.merged.unresolvedRunNodes, ∀ n, g₁.node? id = some n → n.state ≠ .unresolved)
    (h₂ : Sound g₂) (hslots₂ : RunSlots g₂) (hnodes : g₂.nodes = g₁.nodes) :
    g₂.merged.unresolvedRunNodes = [] ↔
      ∀ id ∈ g₀.merged.unresolvedRunNodes, ∀ n, g₁.node? id = some n → n.kind = .preBuilt →
        ∀ h, Heir g₁ n.requirement h → h.state ≠ .unresolved := by
  constructor
  · intro hnil id _ n _ _ h hheir hstate
    have hmem := (hheir.congr hnodes).mem_unresolvedRunNodes h₂ hslots₂ hstate
    rw [hnil] at hmem
    cases hmem
  · intro hcond
    refine List.eq_nil_iff_forall_not_mem.mpr fun id hid => ?_
    obtain ⟨⟨r, hr⟩, n, hn, hstate⟩ := mem_unresolvedRunNodes_iff.mp hid
    obtain ⟨n', hheir₂, rfl⟩ := (find?_merged_of_runSlots h₂ hslots₂).mp hr
    cases hheir₂.node.symm.trans hn
    have hheir : Heir g₁ r n := hheir₂.congr hnodes.symm
    -- the node has not changed, so it was there at first and was not dealt with
    have hn₀ : g₀.node? n.id = some n := by
      rcases hadv.node n.id with heq | ⟨-, m, rpm, b, -, -, hres⟩
      · exact heq.symm.trans hheir.node
      · cases hres.symm.trans hheir.node
        exact absurd hstate (Resolution.resolved_state_ne_unresolved m rpm b)
    have hnot : n.id ∉ g₀.merged.unresolvedRunNodes :=
      fun hmem => hall n.id hmem n hheir.node hstate
    have hkind : n.kind = .run ∨ n.kind = .remote := by
      rcases hheir.first with ⟨hk, -⟩ | ⟨hk, -⟩
      · exact .inr hk
      · exact .inl hk
    -- another node was the heir, and it has become pre-built
    obtain ⟨h, hheir₀⟩ := exists_heir h₀ hslots₀ hn₀ hkind
    rw [hheir.requirement] at hheir₀
    have hne : h.id ≠ n.id := by
      intro heq
      have hh := hheir₀.node
      rw [heq, hn₀] at hh
      cases hh
      exact hnot (hheir₀.mem_unresolvedRunNodes h₀ hslots₀ hstate)
    have hg₁ : Sound g₁ := h₀.merged.advance hadv
    -- had it kept its kind, it would be the heir still
    have hmoved (h' : Node) (hid' : h'.id = h.id) (hh' : g₁.node? h'.id = some h')
        (hreq : h'.requirement = h.requirement) (hk : h'.kind = h.kind) : False := by
      have hheir' := (@Heir.congr g₀ g₀.merged r h rfl hheir₀).advance hadv hid' hh' hreq hk
      rw [hheir'.unique hg₁ hheir] at hid'
      exact hne hid'.symm
    rcases hadv.node h.id with heq | ⟨hmem, m, rpm, b, hm, -, hres⟩
    · exact hmoved h rfl (heq.trans hheir₀.node) rfl rfl
    · cases hheir₀.node.symm.trans hm
      cases b with
      | false =>
        exact hmoved (h.resolved rpm false) rfl hres rfl rfl
      | true =>
        refine hcond h.id hmem _ hres rfl n ?_ hstate
        rw [Resolution.resolved_requirement, hheir₀.requirement]
        exact hheir

end RpmProvision.Graph
