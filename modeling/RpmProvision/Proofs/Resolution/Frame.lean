/-
What many runs make of a graph.

Runs follow one another on a graph, each with collaborators, a manifest and options of its own, and
however each of them ends. A node that has got an RPM is never dealt with again, so that over all of
them a node changes once at most.

* **`Node.Obtains`** — the one way in which a node changes;
* **`MovesForward`** — how the graphs of a history differ;
* **`movesForward_afterRuns`** — the graphs that many runs leave one after another.
-/
import RpmProvision.Proofs.Resolution.Effect

namespace RpmProvision

/-- A node that wanted an RPM has got one: it is cached and keeps its kind, or it is up to date and
stands for a package that was there before. Nothing else of it has changed. -/
inductive Node.Obtains (n : Node) : Node → Prop where
  | cached (rpm : Path) : n.state = .unresolved →
      n.Obtains { n with state := .cached, rpmPath := some rpm }
  | preBuilt (rpm : Path) : n.state = .unresolved →
      n.Obtains { n with state := .upToDate, kind := .preBuilt, rpmPath := some rpm }

theorem Node.obtains_resolved {n : Node} (h : n.state = .unresolved) (rpm : Path)
    (fromToolchain : Bool) : n.Obtains (n.resolved rpm fromToolchain) := by
  cases fromToolchain with
  | true => exact .preBuilt rpm h
  | false => exact .cached rpm h

theorem Node.Obtains.state_ne {n n' : Node} (h : n.Obtains n') : n'.state ≠ .unresolved := by
  cases h with
  | cached rpm _ => exact NodeState.noConfusion
  | preBuilt rpm _ => exact NodeState.noConfusion

namespace Resolution

open RpmProvision.Graph

/-! ### Many runs -/

/-- A run with all that it is given but the graph. -/
structure Run where
  Agent : Type
  ctx : Context Agent
  options : RunOptions
  progress : Progress Agent

/-- How a run ends on a graph, and the graph that it leaves. -/
def Run.on (run : Run) (g : Graph) : Except Error Report × Graph :=
  let r := resolveGraph run.ctx run.options ⟨g, run.progress⟩
  (r.1, r.2.graph)

/-- The graph that some runs leave, one after another, however each of them ends. -/
def afterRuns (g : Graph) (runs : List Run) : Graph := runs.foldl (fun g run => (run.on g).2) g

theorem advances_on (run : Run) (g : Graph) : Advances g.unresolvedRunNodes g (run.on g).2 :=
  advances_snd_resolveGraph run.ctx run.options ⟨g, run.progress⟩

/-- The node with number `id` is not the same in the two graphs. -/
def Differs (g g' : Graph) (id : NodeId) : Prop := g'.node? id ≠ g.node? id

/-- Through a history of graphs, edges and slots stay and nodes neither come nor go. A node that
differs from one graph to the next held a slot, wanted an RPM, and has got it; and it differs once at
most. -/
structure MovesForward (history : Nat → Graph) : Prop where
  needs : ∀ k, (history k).needs = (history 0).needs
  neededBy : ∀ k, (history k).neededBy = (history 0).neededBy
  slots : ∀ k, (history k).slots = (history 0).slots
  nodes : ∀ k id, (∃ n, (history k).node? id = some n) ↔ ∃ n, (history 0).node? id = some n
  obtains : ∀ k id, Differs (history k) (history (k + 1)) id →
    (∃ r, (history k).slots.find? r = some id) ∧ ∃ before after,
      (history k).node? id = some before ∧ (history (k + 1)).node? id = some after
        ∧ before.Obtains after
  once : ∀ j k id, Differs (history j) (history (j + 1)) id →
    Differs (history k) (history (k + 1)) id → j = k

theorem exists_node?_iff {ids : List NodeId} {g g' : Graph} (h : Advances ids g g') (id : NodeId) :
    (∃ n, g'.node? id = some n) ↔ ∃ n, g.node? id = some n := by
  constructor
  · rintro ⟨n', hn'⟩
    obtain ⟨n, hn, -⟩ := h.exists_before hn'
    exact ⟨n, hn⟩
  · exact h.exists_after

theorem obtains_of_differs {g g' : Graph} (h : Advances g.unresolvedRunNodes g g') {id : NodeId}
    (hid : Differs g g' id) :
    (∃ r, g.slots.find? r = some id) ∧ ∃ before after,
      g.node? id = some before ∧ g'.node? id = some after ∧ before.Obtains after := by
  rcases h.node id with heq | ⟨hmem, n, rpm, b, hn, hstate, hres⟩
  · exact absurd heq hid
  · exact ⟨(mem_unresolvedRunNodes_iff.mp hmem).1, n, n.resolved rpm b, hn, hres,
      Node.obtains_resolved hstate rpm b⟩

/-- What is the same from each step of a history to the next is the same throughout. -/
theorem eq_first {α : Type} {f : Nat → α} (h : ∀ k, f (k + 1) = f k) (k : Nat) : f k = f 0 := by
  induction k with
  | zero => rfl
  | succ k ih => exact (h k).trans ih

section History

variable {history : Nat → Graph}
  (h : ∀ k, Advances (history k).unresolvedRunNodes (history k) (history (k + 1)))

include h

/-- A node that wants no RPM stays as it is for good. -/
theorem node?_stays {id : NodeId} {n : Node} {j : Nat} (hn : (history j).node? id = some n)
    (hstate : n.state ≠ .unresolved) : ∀ k ≥ j, (history k).node? id = some n := by
  intro k hk
  induction hk with
  | refl => exact hn
  | @step k _ ih =>
    rcases (h k).node id with heq | ⟨-, m, -, -, hm, hmstate, -⟩
    · exact heq.trans ih
    · cases ih.symm.trans hm
      exact absurd hmstate hstate

/-- A node that has differed once does not differ later. -/
theorem not_differs_later {id : NodeId} {j k : Nat}
    (hj : Differs (history j) (history (j + 1)) id) (hlt : j < k) :
    ¬ Differs (history k) (history (k + 1)) id := by
  obtain ⟨-, before, after, -, hafter, hobtains⟩ := obtains_of_differs (h j) hj
  have hstays := node?_stays h hafter hobtains.state_ne
  intro hk
  exact hk ((hstays (k + 1) (Nat.le_succ_of_le hlt)).trans (hstays k hlt).symm)

/-- A history in which each graph is what a resolution may make of the one before. -/
theorem movesForward_of_advances : MovesForward history where
  needs := eq_first fun k => (h k).needs
  neededBy := eq_first fun k => (h k).neededBy
  slots := eq_first fun k => (h k).slots
  nodes k id := by
    induction k with
    | zero => exact Iff.rfl
    | succ k ih => exact (exists_node?_iff (h k) id).trans ih
  obtains k id := obtains_of_differs (h k)
  once j k id hj hk := by
    rcases Nat.lt_trichotomy j k with hlt | heq | hlt
    · exact absurd hk (not_differs_later h hj hlt)
    · exact heq
    · exact absurd hj (not_differs_later h hk hlt)

end History

/-- The next run starts from the graph that the runs before it left. -/
theorem advances_afterRuns_take (g : Graph) (runs : List Run) (k : Nat) :
    Advances (afterRuns g (runs.take k)).unresolvedRunNodes (afterRuns g (runs.take k))
      (afterRuns g (runs.take (k + 1))) := by
  rcases Nat.lt_or_ge k runs.length with hk | hk
  · rw [List.take_succ_eq_append_getElem hk, afterRuns, afterRuns, List.foldl_append]
    exact advances_on runs[k] (afterRuns g (runs.take k))
  · -- there is no such run any more
    rw [List.take_of_length_le hk, List.take_of_length_le (Nat.le_succ_of_le hk)]
    exact .refl _ _

/-- Runs move nodes forward and change nothing else, whatever collaborators, manifests and options
each of them has, and whether it ends with a report or with an error. -/
theorem movesForward_afterRuns (g : Graph) (runs : List Run) :
    MovesForward fun k => afterRuns g (runs.take k) :=
  movesForward_of_advances (advances_afterRuns_take g runs)

end Resolution

end RpmProvision
