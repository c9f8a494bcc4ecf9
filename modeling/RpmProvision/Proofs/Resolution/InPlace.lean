/-
A node that is changed while it is resolved.

A resolution works on the node itself. First it finds a candidate, in steps that may fail and leave the
node alone, and then it settles on the candidate, in steps that change the node and cannot fail. So a
node whose resolution fails is what it was, and the graph that the node is put back into is as well.

* **`settle`** — the second part, as a step that returns the node;
* **`resolveInPlace_of_error`** — a resolution that fails leaves the node alone;
* **`resolveNode_eq`** — the node that a resolution makes, stage by stage;
* **`resolveAt_eq`** — the node in its graph.
-/
import RpmProvision.Proofs.Step
import RpmProvision.Resolution.Run

namespace RpmProvision.Resolution

open Step

variable {τ : Type}

/-! ### The parts of a resolution -/

/-- The node with the RPM of a candidate. -/
def settle (ctx : Context τ) (n : Node) (c : Candidate) : Step (Progress τ) Error Node := do
  let prebuilt ← Step.asks fun p => p.cache.isPrebuilt c.package
  let fromToolchain := ctx.manifest.isPrebuiltToolchain c.rpm prebuilt
  if fromToolchain then
    Progress.log .debug "Using a prebuilt toolchain package to resolve this dependency"
  let fileName := c.rpm.fileName?.getD ""
  Progress.log .info s!"Choosing '{fileName}' to provide '{n.requirement.name}'."
  pure (n.resolved c.rpm fromToolchain)

/-- What is done for a node once its providers are known. -/
def resolveFrom (ctx : Context τ) (n : Node) (providers : List String) :
    Step (Progress τ) Error Node := do
  fetchMissing ctx providers
  let chosen ← Progress.onSession (choose ctx n.requirement (candidates ctx.outDir providers))
  settle ctx n chosen

/-- To settle on a candidate cannot fail, and changes the node bit by bit. -/
theorem settleOn_apply (ctx : Context τ) (c : Candidate) (n : Node) (p : Progress τ) :
    ∃ n', settle ctx n c p = (.ok n', (settle ctx n c p).2)
      ∧ settleOn ctx c ⟨n, p⟩ = (.ok (), ⟨n', (settle ctx n c p).2⟩) := by
  unfold settle settleOn advance
  simp only [bind_apply, asks_apply, andThen_ok]
  cases ctx.manifest.isPrebuiltToolchain c.rpm (p.cache.isPrebuilt c.package) with
  | true => exact ⟨_, rfl, rfl⟩
  | false => exact ⟨_, rfl, rfl⟩

theorem requireUnresolved_apply (n : Node) (p : Progress τ) :
    requireUnresolved ⟨n, p⟩ = if n.state = .unresolved then (.ok (), ⟨n, p⟩)
      else (.error (GraphFault.notUnresolved n).toError, ⟨n, p⟩) := by
  unfold requireUnresolved
  rw [bind_apply, asks_apply, andThen_ok]
  by_cases hn : n.state = .unresolved
  · rw [if_pos hn, if_pos hn]
    rfl
  · rw [if_neg hn, if_neg hn]
    rfl

theorem resolveInPlace_of_resolved (ctx : Context τ) {n : Node} (hn : n.state ≠ .unresolved)
    (p : Progress τ) :
    resolveInPlace ctx ⟨n, p⟩ = (.error (GraphFault.notUnresolved n).toError, ⟨n, p⟩) := by
  rw [resolveInPlace, bind_apply, requireUnresolved_apply, if_neg hn, andThen_error]

/-- The two parts of a resolution. -/
theorem resolveInPlace_of_unresolved (ctx : Context τ) {n : Node} (hn : n.state = .unresolved)
    (p : Progress τ) :
    resolveInPlace ctx ⟨n, p⟩
      = (Resolving.onProgress (nominate ctx n) >>= settleOn ctx) ⟨n, p⟩ := by
  rw [resolveInPlace, bind_apply, requireUnresolved_apply, if_pos hn, andThen_ok, bind_apply,
    asks_apply, andThen_ok]

/-! ### The node -/

/-- A resolution that fails leaves the node alone. -/
theorem resolveInPlace_of_error {ctx : Context τ} {s s' : Resolving τ} {e : Error}
    (h : resolveInPlace ctx s = (.error e, s')) : s'.node = s.node := by
  obtain ⟨n, p⟩ := s
  by_cases hn : n.state = .unresolved
  · rw [resolveInPlace_of_unresolved ctx hn] at h
    rcases bind_eq_error.mp h with hnominate | ⟨c, s₁, -, hsettle⟩
    · obtain ⟨-, rfl⟩ := Prod.mk.inj hnominate
      rfl
    · obtain ⟨n', -, hok⟩ := settleOn_apply ctx c s₁.node s₁.progress
      cases hok.symm.trans hsettle
  · rw [resolveInPlace_of_resolved ctx hn] at h
    cases h
    rfl

theorem resolveNode_of_resolved (ctx : Context τ) {n : Node} (hn : n.state ≠ .unresolved) :
    resolveNode ctx n = Step.fail (GraphFault.notUnresolved n).toError := by
  funext p
  rw [resolveNode, resolveInPlace_of_resolved ctx hn]
  rfl

/-- A resolution of an unresolved node finds a candidate and settles on it. -/
theorem resolveNode_eq_nominate (ctx : Context τ) {n : Node} (hn : n.state = .unresolved) :
    resolveNode ctx n = nominate ctx n >>= settle ctx n := by
  funext p
  rw [resolveNode, resolveInPlace_of_unresolved ctx hn, bind_apply, bind_apply,
    Resolving.onProgress]
  rcases nominate ctx n p with ⟨e | c, p'⟩
  · rfl
  · obtain ⟨n', hsettle, hsettleOn⟩ := settleOn_apply ctx c n p'
    rw [andThen_ok, andThen_ok, hsettleOn, hsettle]
    rfl

/-- The node that a resolution makes of an unresolved one, stage by stage. -/
theorem resolveNode_eq (ctx : Context τ) {n : Node} (hn : n.state = .unresolved) :
    resolveNode ctx n = (do
      Progress.log .debug s!"Adding node {n.friendlyName} to the cache"
      let providers ← Progress.onSession (findProviders ctx n)
      resolveFrom ctx n providers) := by
  rw [resolveNode_eq_nominate ctx hn]
  unfold nominate resolveFrom
  simp only [bind_assoc]

/-- A node comes out changed: it does not want an RPM any more. -/
theorem state_of_resolveNode {ctx : Context τ} {n n' : Node} {p p' : Progress τ}
    (h : resolveNode ctx n p = (.ok n', p')) : n.state = .unresolved ∧ n'.state ≠ .unresolved := by
  by_cases hn : n.state = .unresolved
  · rw [resolveNode_eq_nominate ctx hn] at h
    obtain ⟨c, p₁, -, h⟩ := bind_eq_ok.mp h
    refine ⟨hn, ?_⟩
    unfold settle at h
    rw [bind_apply, asks_apply, andThen_ok] at h
    cases hb : ctx.manifest.isPrebuiltToolchain c.rpm (p₁.cache.isPrebuilt c.package) with
    | true =>
      rw [hb] at h
      cases h
      exact fun h => by cases h
    | false =>
      rw [hb] at h
      cases h
      exact fun h => by cases h
  · rw [resolveNode_of_resolved ctx hn] at h
    cases h

/-! ### The graph -/

theorem onNode_apply {α : Type} {x : Step (Resolving τ) Error α} {id : NodeId} {n after : Node}
    {s : RunState τ} {p : Progress τ} {r : Except Error α}
    (h : x ⟨n, s.progress⟩ = (r, ⟨after, p⟩)) :
    RunState.onNode id n x s = (r, ⟨s.graph.putBack id n after, p⟩) := by
  unfold RunState.onNode
  rw [h]

/-- In the graph a resolved node replaces the one before, and one that failed is put back as it
was. -/
theorem resolveAt_eq (ctx : Context τ) (id : NodeId) (n : Node) :
    resolveAt ctx id n = (do
      match ← (RunState.onProgress (resolveNode ctx n)).outcome with
      | .ok n' => do
        Step.modify fun s => { s with graph := s.graph.setNode id n' }
        pure (resolvedOutcome id n')
      | .error e => fail id n e) := by
  funext s
  unfold resolveAt
  rw [bind_apply, bind_apply, outcome_apply, outcome_apply, andThen_ok, andThen_ok,
    RunState.onProgress, within_apply]
  rcases h : resolveInPlace ctx ⟨n, s.progress⟩ with ⟨e | ⟨⟩, after, p⟩
  · have hfailed : (do resolveInPlace ctx; Step.asks Resolving.node : Step (Resolving τ) Error Node)
        ⟨n, s.progress⟩ = (.error e, ⟨after, p⟩) := by
      rw [bind_apply, h, andThen_error]
    have herror : resolveNode ctx n s.progress = (.error e, p) := by
      rw [resolveNode, h]
      rfl
    have hnode : after = n := resolveInPlace_of_error h
    rw [onNode_apply hfailed, herror, hnode, Graph.putBack_self]
  · have hdone : (do resolveInPlace ctx; Step.asks Resolving.node : Step (Resolving τ) Error Node)
        ⟨n, s.progress⟩ = (.ok after, ⟨after, p⟩) := by
      rw [bind_apply, h, andThen_ok, asks_apply]
    have hok : resolveNode ctx n s.progress = (.ok after, p) := by
      rw [resolveNode, h]
      rfl
    have hne : after ≠ n := by
      obtain ⟨hn, hn'⟩ := state_of_resolveNode hok
      rintro rfl
      exact hn' hn
    rw [onNode_apply hdone, hok, Graph.putBack_of_ne _ _ hne]
    rfl

end RpmProvision.Resolution
