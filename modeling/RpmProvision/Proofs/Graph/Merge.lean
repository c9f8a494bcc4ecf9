/-
Who holds the slots after a merge.

A merge gives the slot of a requirement to the remote nodes of that requirement one after another, so
that the one with the greatest number keeps it.

* **`mergeRemotes_apply`** — a merge of a sound graph is not refused and changes slots only;
* **`find?_merged`** — the slots after a merge;
* **`Heir`** — who holds a slot after a merge if only run nodes and remote nodes held slots before.
-/
import RpmProvision.Proofs.Graph.Sound

namespace RpmProvision.Graph

open Step

/-- The remote nodes in the order of their numbers. -/
def remoteNodes (g : Graph) : List Node := g.nodes.values.filter fun n => n.kind = .remote

/-- The slots after some nodes have taken theirs, one after another. -/
def takenBy (nodes : List Node) (slots : SortedMap Requirement NodeId) :
    SortedMap Requirement NodeId :=
  nodes.foldl (fun slots n => slots.insert n.requirement n.id) slots

/-- The graph in which the remote nodes have taken the slots of their requirements. -/
def merged (g : Graph) : Graph := { g with slots := takenBy g.remoteNodes g.slots }

theorem mem_remoteNodes_iff {g : Graph} (hg : ∀ {id n}, g.node? id = some n → n.id = id) {n : Node} :
    n ∈ g.remoteNodes ↔ g.node? n.id = some n ∧ n.kind = .remote := by
  rw [remoteNodes, List.mem_filter, SortedMap.mem_values_iff, decide_eq_true_eq]
  refine and_congr_left fun _ => ⟨?_, fun h => ⟨n.id, h⟩⟩
  rintro ⟨id, hid⟩
  rw [hg hid]
  exact hid

/-! ### A merge -/

/-- A remote node takes the slot of its requirement, whoever holds it. -/
theorem takeSlot_apply {e : Editing} {n : Node} (hn : e.graph.node? n.id = some n)
    (hkind : n.kind = .remote) : ∃ events, takeSlot n.id true e
      = (.ok (), ⟨{ e.graph with slots := e.graph.slots.insert n.requirement n.id }, events⟩) := by
  rw [takeSlot, hn]
  dsimp only
  rw [if_neg (by simp [hkind])]
  cases hslot : e.graph.slots.find? n.requirement with
  | none => exact ⟨e.events, rfl⟩
  | some occupant =>
    dsimp only
    by_cases hocc : occupant = n.id
    · rw [if_pos hocc]
      refine ⟨e.events, ?_⟩
      -- it holds the slot already
      have hsame : e.graph.slots.insert n.requirement n.id = e.graph.slots := by
        refine SortedMap.ext_find? fun r => ?_
        by_cases hr : r = n.requirement
        · rw [hr, SortedMap.find?_insert_self, hslot, hocc]
        · rw [SortedMap.find?_insert_of_ne _ _ hr]
      rw [hsame]
    · rw [if_neg hocc, if_neg (by simp)]
      exact ⟨_, rfl⟩

theorem takeSlots_apply {nodes : List Node} {e : Editing}
    (h : ∀ n ∈ nodes, e.graph.node? n.id = some n ∧ n.kind = .remote) :
    ∃ events, takeSlots (nodes.map Node.id) e
      = (.ok (), ⟨{ e.graph with slots := takenBy nodes e.graph.slots }, events⟩) := by
  induction nodes generalizing e with
  | nil => exact ⟨e.events, rfl⟩
  | cons n rest ih =>
    obtain ⟨hn, hkind⟩ := h n List.mem_cons_self
    obtain ⟨events, htake⟩ := takeSlot_apply hn hkind
    rw [List.map_cons, takeSlots, bind_apply, htake, andThen_ok]
    exact ih fun m hm => h m (List.mem_cons_of_mem n hm)

/-- A merge of a sound graph is not refused, and it changes slots only. -/
theorem mergeRemotes_apply {g : Graph} (hg : Sound g) (events : List Event) :
    ∃ events', mergeRemotes ⟨g, events⟩ = (.ok g.remotes.length, ⟨g.merged, events'⟩) := by
  obtain ⟨events', h⟩ := @takeSlots_apply g.remoteNodes ⟨g, events⟩
    fun n hn => (mem_remoteNodes_iff hg.id_eq).mp hn
  refine ⟨events', ?_⟩
  rw [mergeRemotes, bind_apply, asks_apply, andThen_ok]
  show andThen _ (takeSlots (g.remoteNodes.map Node.id) ⟨g, events⟩) = _
  rw [h]
  rfl

/-! ### The slots after a merge -/

/-- Among nodes in the order of their numbers the last one of a requirement has its slot then. -/
theorem find?_takenBy {nodes : List Node} (hnodes : nodes.Pairwise fun m n => m.id < n.id)
    {slots : SortedMap Requirement NodeId} {r : Requirement} {id : NodeId} :
    (takenBy nodes slots).find? r = some id ↔
      (∃ n ∈ nodes, n.requirement = r ∧ n.id = id ∧ ∀ m ∈ nodes, m.requirement = r → m.id ≤ id)
      ∨ (∀ m ∈ nodes, m.requirement ≠ r) ∧ slots.find? r = some id := by
  induction nodes generalizing slots with
  | nil => simp [takenBy]
  | cons n rest ih =>
    obtain ⟨hn, hrest⟩ := List.pairwise_cons.mp hnodes
    rw [takenBy, List.foldl_cons, ← takenBy, ih hrest]
    -- the first node keeps the slot of its requirement only if no later node takes it
    by_cases hr : n.requirement = r
    · rw [← hr, SortedMap.find?_insert_self]
      constructor
      · rintro (⟨k, hk, hreq, hid, hmax⟩ | ⟨hnone, hid⟩)
        · refine .inl ⟨k, List.mem_cons_of_mem n hk, hreq, hid, fun m hm hmreq => ?_⟩
          rcases List.mem_cons.mp hm with rfl | hm
          · rw [← hid]
            exact UInt64.le_of_lt (hn k hk)
          · exact hmax m hm hmreq
        · refine .inl ⟨n, List.mem_cons_self, rfl, Option.some.inj hid, fun m hm hmreq => ?_⟩
          rcases List.mem_cons.mp hm with rfl | hm
          · rw [Option.some.inj hid]
            exact UInt64.le_refl id
          · exact absurd hmreq (hnone m hm)
      · rintro (⟨k, hk, hreq, hid, hmax⟩ | ⟨hnone, -⟩)
        · rcases List.mem_cons.mp hk with rfl | hk
          · -- a later node of the requirement would have a greater number
            refine .inr ⟨fun m hm hmreq => ?_, by rw [hid]⟩
            have hle := hmax m (List.mem_cons_of_mem k hm) hmreq
            rw [← hid] at hle
            exact UInt64.not_le.mpr (hn m hm) hle
          · exact .inl ⟨k, hk, hreq, hid, fun m hm => hmax m (List.mem_cons_of_mem n hm)⟩
        · exact absurd rfl (hnone n List.mem_cons_self)
    · rw [SortedMap.find?_insert_of_ne _ _ fun h => hr h.symm]
      simp [hr]

theorem lt_of_remoteNodes {g : Graph} (hg : ∀ {id n}, g.node? id = some n → n.id = id) :
    g.remoteNodes.Pairwise fun m n => m.id < n.id := by
  have hvalues : g.nodes.values.Pairwise fun m n => m.id < n.id := by
    rw [SortedMap.values, List.pairwise_map]
    refine g.nodes.increasing.imp_of_mem fun {p q} hp hq hpq => ?_
    rw [hg (SortedMap.find?_eq_some_iff.mpr hp), hg (SortedMap.find?_eq_some_iff.mpr hq)]
    exact Std.compare_eq_lt.mp hpq
  exact hvalues.filter _

/-- After a merge the remote node with the greatest number has the slot of its requirement, and every
slot without a remote node is held as before. -/
theorem find?_merged {g : Graph} (hg : Sound g) {r : Requirement} {id : NodeId} :
    g.merged.slots.find? r = some id ↔
      (∃ n, g.node? id = some n ∧ n.requirement = r ∧ n.kind = .remote
        ∧ ∀ m, g.node? m.id = some m → m.requirement = r → m.kind = .remote → m.id ≤ id)
      ∨ (∀ m, g.node? m.id = some m → m.requirement = r → m.kind ≠ .remote)
        ∧ g.slots.find? r = some id := by
  show (takenBy g.remoteNodes g.slots).find? r = some id ↔ _
  rw [find?_takenBy (lt_of_remoteNodes hg.id_eq)]
  refine or_congr ?_ (and_congr_left fun _ => ?_)
  · constructor
    · rintro ⟨n, hn, hreq, rfl, hmax⟩
      obtain ⟨hnode, hkind⟩ := (mem_remoteNodes_iff hg.id_eq).mp hn
      exact ⟨n, hnode, hreq, hkind, fun m hm hmreq hmkind =>
        hmax m ((mem_remoteNodes_iff hg.id_eq).mpr ⟨hm, hmkind⟩) hmreq⟩
    · rintro ⟨n, hnode, hreq, hkind, hmax⟩
      have hid := hg.id_eq hnode
      refine ⟨n, (mem_remoteNodes_iff hg.id_eq).mpr ⟨by rw [hid, hnode], hkind⟩, hreq, hid,
        fun m hm hmreq => ?_⟩
      obtain ⟨hmnode, hmkind⟩ := (mem_remoteNodes_iff hg.id_eq).mp hm
      exact hmax m hmnode hmreq hmkind
  · constructor
    · intro h m hm hreq hkind
      exact h m ((mem_remoteNodes_iff hg.id_eq).mpr ⟨hm, hkind⟩) hreq
    · intro h m hm hreq
      obtain ⟨hnode, hkind⟩ := (mem_remoteNodes_iff hg.id_eq).mp hm
      exact h m hnode hreq hkind

/-- A slot that is held stays held. -/
theorem held_takenBy {nodes : List Node} {slots : SortedMap Requirement NodeId} {r : Requirement}
    (h : ∃ id, slots.find? r = some id) : ∃ id, (takenBy nodes slots).find? r = some id := by
  induction nodes generalizing slots with
  | nil => exact h
  | cons n rest ih =>
    refine ih ?_
    by_cases hr : r = n.requirement
    · exact ⟨n.id, by rw [hr, SortedMap.find?_insert_self]⟩
    · rw [SortedMap.find?_insert_of_ne _ _ hr]
      exact h

/-- The slot of a remote node is held. -/
theorem held_of_remote {nodes : List Node} {slots : SortedMap Requirement NodeId} {n : Node}
    (hn : n ∈ nodes) : ∃ id, (takenBy nodes slots).find? n.requirement = some id := by
  obtain ⟨before, after, rfl⟩ := List.append_of_mem hn
  rw [takenBy, List.foldl_append, List.foldl_cons]
  exact held_takenBy ⟨n.id, SortedMap.find?_insert_self ..⟩

/-- A merge keeps a graph sound. -/
theorem Sound.merged {g : Graph} (hg : Sound g) : Sound g.merged := by
  refine { hg with holder := ?_, run_slot := fun hn hrun => held_takenBy (hg.run_slot hn hrun) }
  intro r id hr
  rcases (find?_merged hg).mp hr with ⟨n, hn, hreq, hkind, -⟩ | ⟨-, hr⟩
  · exact ⟨n, hn, hreq, .inr (.inl hkind)⟩
  · exact hg.holder hr

/-! ### Heirs -/

/-- Only run nodes hold slots, and every one of them holds its own. -/
def RunSlots (g : Graph) : Prop :=
  ∀ r id, g.slots.find? r = some id ↔ ∃ n, g.node? id = some n ∧ n.kind = .run ∧ n.requirement = r

/-- Only run nodes and remote nodes hold slots. -/
def RunOrRemote (g : Graph) : Prop :=
  ∀ r id, g.slots.find? r = some id →
    ∃ n, g.node? id = some n ∧ (n.kind = .run ∨ n.kind = .remote)

theorem RunSlots.runOrRemote {g : Graph} (h : RunSlots g) : RunOrRemote g := by
  intro r id hr
  obtain ⟨n, hn, hkind, -⟩ := (h r id).mp hr
  exact ⟨n, hn, .inl hkind⟩

/-- The node that has the slot of a requirement after a merge if only run nodes and remote nodes held
slots before: the remote node with the greatest number, or the run node if there is no remote one. -/
structure Heir (g : Graph) (r : Requirement) (n : Node) : Prop where
  node : g.node? n.id = some n
  requirement : n.requirement = r
  first : (n.kind = .remote ∧ ∀ m, g.node? m.id = some m → m.requirement = r → m.kind = .remote →
      m.id ≤ n.id)
    ∨ n.kind = .run ∧ ∀ m, g.node? m.id = some m → m.requirement = r → m.kind ≠ .remote

/-- A slot after a merge is held by the heir, whichever remote node held it before. -/
theorem find?_merged_of_runOrRemote {g : Graph} (hg : Sound g) (hslots : RunOrRemote g)
    {r : Requirement} {id : NodeId} :
    g.merged.slots.find? r = some id ↔ ∃ n, Heir g r n ∧ n.id = id := by
  rw [find?_merged hg]
  constructor
  · rintro (⟨n, hn, hreq, hkind, hmax⟩ | ⟨hnone, hr⟩)
    · have hid := hg.id_eq hn
      exact ⟨n, ⟨by rw [hid, hn], hreq, .inl ⟨hkind, by rw [hid]; exact hmax⟩⟩, hid⟩
    · -- the holder is not remote, so that it is a run node
      obtain ⟨n, hn, hreq, -⟩ := hg.holder hr
      obtain ⟨n', hn', hkind⟩ := hslots r id hr
      cases hn.symm.trans hn'
      have hid := hg.id_eq hn
      have hn : g.node? n.id = some n := by rw [hid, hn]
      exact ⟨n, ⟨hn, hreq, .inr ⟨hkind.resolve_right (hnone n hn hreq), hnone⟩⟩, hid⟩
  · rintro ⟨n, ⟨hn, hreq, ⟨hkind, hmax⟩ | ⟨hkind, hnone⟩⟩, rfl⟩
    · exact .inl ⟨n, hn, hreq, hkind, hmax⟩
    · -- the run node has not lost its slot: only another run node could hold it
      obtain ⟨id, hr⟩ := hg.run_slot hn hkind
      rw [hreq] at hr
      obtain ⟨m, hm, hmreq, -⟩ := hg.holder hr
      obtain ⟨m', hm', hmkind⟩ := hslots r id hr
      cases hm.symm.trans hm'
      have hmnode : g.node? m.id = some m := by rw [hg.id_eq hm, hm]
      have hid : n.id = id := hg.run_unique hn hm hkind
        (hmkind.resolve_right (hnone m hmnode hmreq)) (hreq.trans hmreq.symm)
      exact .inr ⟨hnone, by rw [hid, hr]⟩

theorem find?_merged_of_runSlots {g : Graph} (hg : Sound g) (hslots : RunSlots g)
    {r : Requirement} {id : NodeId} :
    g.merged.slots.find? r = some id ↔ ∃ n, Heir g r n ∧ n.id = id :=
  find?_merged_of_runOrRemote hg hslots.runOrRemote

theorem Heir.unique {g : Graph} (hg : Sound g) {r : Requirement} {m n : Node} (hm : Heir g r m)
    (hn : Heir g r n) : m = n := by
  -- two remote heirs both have the greatest number, and two run nodes share no requirement
  have hid : m.id = n.id := by
    rcases hm.first with ⟨hmk, hmmax⟩ | ⟨hmk, hmnone⟩
    · rcases hn.first with ⟨hnk, hnmax⟩ | ⟨-, hnnone⟩
      · exact UInt64.le_antisymm (hnmax m hm.node hm.requirement hmk)
          (hmmax n hn.node hn.requirement hnk)
      · exact absurd hmk (hnnone m hm.node hm.requirement)
    · rcases hn.first with ⟨hnk, -⟩ | ⟨hnk, -⟩
      · exact absurd hnk (hmnone n hn.node hn.requirement)
      · exact hg.run_unique hm.node hn.node hmk hnk (hm.requirement.trans hn.requirement.symm)
  have hnode := hm.node
  rw [hid, hn.node] at hnode
  exact (Option.some.inj hnode).symm

end RpmProvision.Graph
