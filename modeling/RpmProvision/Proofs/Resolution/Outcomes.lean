/-
What the report of a run says.

A run deals with the nodes that hold a slot and want an RPM, in the order of their numbers. For each
of them there is one lookup and one outcome, and the outcome tells what happened to the node.

* **`Accounted`** — an outcome fits a node before and after, and the answer to its lookup;
* **`resolveAt_eq_ok`** — what is done for one node;
* **`forall_accounted`** — the outcomes of a run fit its nodes and its lookups.
-/
import Mathlib.Data.List.Forall2
import RpmProvision.Proofs.Graph.Basic
import RpmProvision.Proofs.Resolution.Node

namespace RpmProvision.Resolution

open Step

variable {τ : Type}

/-- An outcome that fits what a node was, what it became, and the answer to the lookup of its
requirement. -/
structure Accounted (before after : Node) (answer : Except Error (List String)) (o : Outcome) :
    Prop where
  isResolved_iff : o.isResolved ↔ after.state = .cached ∨ after.state = .upToDate
  eq_resolved : o.isResolved → ∃ rpm, after.rpmPath = some rpm
    ∧ o = .resolved o.node rpm after.state
  isSoft_iff : o.isSoft ↔ before.implicit ∧ namesNothing answer
  isHard_iff : o.isHard ↔ ¬ (after.state = .cached ∨ after.state = .upToDate)
    ∧ ¬ (before.implicit ∧ namesNothing answer)
  eq_of_not_resolved : ¬ o.isResolved → after = before

/-! ### One node -/

@[simp] theorem node_resolvedOutcome (id : NodeId) (n : Node) : (resolvedOutcome id n).node = id :=
  rfl

@[simp] theorem node_failureOutcome (id : NodeId) (n : Node) (e : Error) :
    (failureOutcome id n e).node = id := by
  rw [failureOutcome]
  by_cases h : e.kind = .providerLookup ∧ n.implicit
  · rw [if_pos h]
    rfl
  · rw [if_neg h]
    rfl

/-- Reporting a failure adds to the log and does nothing else. -/
theorem logFailure_apply (id : NodeId) (reason : String) (s : RunState τ) :
    ∃ w, logFailure id reason s
      = (.ok (), ⟨s.graph, ⟨⟨w, s.progress.session.agent⟩, s.progress.cache⟩⟩) := by
  unfold logFailure
  rw [bind_apply, asks_apply, andThen_ok]
  cases s.graph.node? id with
  | none => exact ⟨s.progress.session.world, rfl⟩
  | some n => exact ⟨_, rfl⟩

theorem fail_of_isFatal {e : Error} (he : e.isFatal = true) (id : NodeId) (n : Node)
    (s : RunState τ) : fail id n e s = (.error e, s) := by
  unfold fail
  rw [he]
  rfl

/-- A failure that concerns one node leads to an outcome, and the graph stays. -/
theorem fail_of_not_isFatal {e : Error} (he : e.isFatal = false) (id : NodeId) (n : Node)
    (s : RunState τ) : ∃ w, fail id n e s = (.ok (failureOutcome id n e),
      ⟨s.graph, ⟨⟨w, s.progress.session.agent⟩, s.progress.cache⟩⟩) := by
  obtain ⟨w, hw⟩ := logFailure_apply id e.message s
  unfold fail
  rw [he, if_neg (by decide)]
  dsimp only
  cases (failureOutcome id n e).isHard with
  | true =>
    refine ⟨w, ?_⟩
    rw [if_pos rfl, bind_apply, hw, andThen_ok]
    rfl
  | false => exact ⟨s.progress.session.world, rfl⟩

theorem resolveAt_of_ok {ctx : Context τ} {n n' : Node} {s : RunState τ} {p : Progress τ}
    (h : resolveNode ctx n s.progress = (.ok n', p)) (id : NodeId) :
    resolveAt ctx id n s = (.ok (resolvedOutcome id n'), ⟨s.graph.setNode id n', p⟩) := by
  rw [resolveAt_eq, bind_apply, outcome_apply, andThen_ok, RunState.onProgress, within_apply, h]
  rfl

theorem resolveAt_of_error {ctx : Context τ} {n : Node} {e : Error} {s : RunState τ}
    {p : Progress τ} (h : resolveNode ctx n s.progress = (.error e, p)) (id : NodeId) :
    resolveAt ctx id n s = fail id n e ⟨s.graph, p⟩ := by
  rw [resolveAt_eq, bind_apply, outcome_apply, andThen_ok, RunState.onProgress, within_apply, h]

/-- What is done for one node of the graph: it is replaced by the resolved node, or the graph is as
it was. -/
theorem resolveAt_eq_ok {ctx : Context τ} {id : NodeId} {n : Node} {s s' : RunState τ} {o : Outcome}
    (h : resolveAt ctx id n s = (.ok o, s')) :
    (∃ n', (resolveNode ctx n s.progress).1 = .ok n' ∧ o = resolvedOutcome id n'
      ∧ s' = ⟨s.graph.setNode id n', (resolveNode ctx n s.progress).2⟩)
    ∨ ∃ e w, (resolveNode ctx n s.progress).1 = .error e ∧ e.isFatal = false
      ∧ o = failureOutcome id n e
      ∧ s' = ⟨s.graph, ⟨⟨w, (resolveNode ctx n s.progress).2.session.agent⟩,
        (resolveNode ctx n s.progress).2.cache⟩⟩ := by
  rcases hr : resolveNode ctx n s.progress with ⟨e | n', p⟩
  · rw [resolveAt_of_error hr] at h
    cases he : e.isFatal with
    | true => simp [fail_of_isFatal he] at h
    | false =>
      obtain ⟨w, hw⟩ := fail_of_not_isFatal he id n ⟨s.graph, p⟩
      cases hw.symm.trans h
      exact .inr ⟨e, w, rfl, he, rfl, rfl⟩
  · cases (resolveAt_of_ok hr id).symm.trans h
    exact .inl ⟨n', rfl, rfl, rfl⟩

theorem node_of_resolveAt {ctx : Context τ} {id : NodeId} {n : Node} {s s' : RunState τ}
    {o : Outcome} (h : resolveAt ctx id n s = (.ok o, s')) : o.node = id := by
  rcases resolveAt_eq_ok h with ⟨_, _, rfl, _⟩ | ⟨_, _, _, _, rfl, _⟩ <;> simp

/-- The other nodes stay. -/
theorem node?_resolveAt_of_ne {ctx : Context τ} {id id' : NodeId} {n : Node} {s s' : RunState τ}
    {o : Outcome} (h : resolveAt ctx id n s = (.ok o, s')) (hne : id' ≠ id) :
    s'.graph.node? id' = s.graph.node? id' := by
  rcases resolveAt_eq_ok h with ⟨n', _, _, rfl⟩ | ⟨_, _, _, _, _, rfl⟩
  · exact Graph.node?_setNode_of_ne _ n' hne
  · rfl

theorem isResolved_failureOutcome (id : NodeId) (n : Node) (e : Error) :
    (failureOutcome id n e).isResolved = false := by
  rw [failureOutcome]
  by_cases h : e.kind = .providerLookup ∧ n.implicit
  · rw [if_pos h]
    rfl
  · rw [if_neg h]
    rfl

theorem isSoft_failureOutcome (id : NodeId) (n : Node) (e : Error) :
    (failureOutcome id n e).isSoft ↔ e.kind = .providerLookup ∧ n.implicit := by
  rw [failureOutcome]
  by_cases h : e.kind = .providerLookup ∧ n.implicit
  · rw [if_pos h]
    exact ⟨fun _ => h, fun _ => rfl⟩
  · rw [if_neg h]
    exact ⟨fun hs => absurd hs (by simp [Outcome.isSoft]), fun hs => absurd hs h⟩

theorem isHard_iff_not (o : Outcome) : o.isHard ↔ ¬ o.isResolved ∧ ¬ o.isSoft := by
  cases o <;> simp [Outcome.isHard, Outcome.isResolved, Outcome.isSoft]

/-- The outcome for one node fits, and its requirement is looked up once. -/
theorem resolveAt_recorded {ctx : Context τ} {id : NodeId} {n : Node} {s s' : RunState (Recorded τ)}
    {o : Outcome} (hid : s.graph.node? id = some n) (hn : n.state = .unresolved)
    (h : resolveAt ctx.recorded id n s = (.ok o, s')) :
    ∃ answer more after, s'.record = s.record ++ .lookup n.requirement answer :: more
      ∧ lookups more = [] ∧ s'.graph.node? id = some after ∧ Accounted n after answer o := by
  obtain ⟨answer, more, hrec, hmore, hq⟩ := resolveNode_recorded ctx hn s.progress
  refine ⟨answer, more, ?_⟩
  -- a resolved node is cached or up to date; a failed one is what it was and wants an RPM still
  rcases resolveAt_eq_ok h with ⟨n', hn', rfl, rfl⟩ | ⟨e, w, he, -, rfl, rfl⟩
  · obtain ⟨-, rpm, b, rfl⟩ := resolveNode_eq_ok (Prod.ext hn' rfl)
    have hstate : (n.resolved rpm b).state = .cached ∨ (n.resolved rpm b).state = .upToDate := by
      rw [resolved_state]
      cases b <;> simp
    have hanswer : ¬ namesNothing answer = true := by
      rw [← hq, hn']
      rintro ⟨e, he, -⟩
      cases he
    refine ⟨n.resolved rpm b, hrec, hmore, Graph.node?_setNode_self .., ?_⟩
    refine ⟨⟨fun _ => hstate, fun _ => rfl⟩, fun _ => ⟨rpm, resolved_rpmPath .., ?_⟩, ?_, ?_, ?_⟩
    · simp [resolvedOutcome, Outcome.node]
    · exact ⟨fun hs => absurd hs (by simp [resolvedOutcome, Outcome.isSoft]),
        fun hs => absurd hs.2 hanswer⟩
    · exact ⟨fun hh => absurd hh (by simp [resolvedOutcome, Outcome.isHard]),
        fun hh => absurd hstate hh.1⟩
    · exact fun hr => absurd rfl hr
  · have hnot : ¬ (failureOutcome id n e).isResolved := by
      rw [isResolved_failureOutcome]
      decide
    have hstate : ¬ (n.state = .cached ∨ n.state = .upToDate) := by
      rw [hn]
      decide
    have hsoft : (failureOutcome id n e).isSoft ↔ n.implicit ∧ namesNothing answer := by
      rw [isSoft_failureOutcome, ← hq, he]
      constructor
      · rintro ⟨hk, hi⟩
        exact ⟨hi, e, rfl, hk⟩
      · rintro ⟨hi, e', he', hk⟩
        cases he'
        exact ⟨hk, hi⟩
    refine ⟨n, hrec, hmore, hid, ?_⟩
    refine ⟨⟨fun hr => absurd hr hnot, fun hs => absurd hs hstate⟩, fun hr => absurd hr hnot,
      hsoft, ?_, fun _ => rfl⟩
    rw [isHard_iff_not, hsoft]
    exact ⟨fun hh => ⟨hstate, hh.2⟩, fun hh => ⟨hnot, hh.2⟩⟩

/-! ### A list of nodes -/

theorem resolveNodes_cons {ctx : Context τ} {id : NodeId} {rest : List NodeId} {n : Node}
    {s s' : RunState τ} {outcomes : List Outcome} (hid : s.graph.node? id = some n) :
    resolveNodes ctx (id :: rest) s = (.ok outcomes, s') ↔
      ∃ o s₁ more, resolveAt ctx id n s = (.ok o, s₁) ∧ resolveNodes ctx rest s₁ = (.ok more, s')
        ∧ outcomes = o :: more := by
  rw [resolveNodes, bind_apply, asks_apply, andThen_ok, hid]
  constructor
  · intro h
    obtain ⟨o, s₁, ho, h⟩ := bind_eq_ok.mp h
    obtain ⟨more, s₂, hmore, h⟩ := bind_eq_ok.mp h
    cases h
    exact ⟨o, s₁, more, ho, hmore, rfl⟩
  · rintro ⟨o, s₁, more, ho, hmore, rfl⟩
    exact bind_eq_ok.mpr ⟨o, s₁, ho, bind_eq_ok.mpr ⟨more, s', hmore, rfl⟩⟩

/-- What holds of a list of nodes before they are resolved: each of them wants an RPM. -/
def Wanting (g : Graph) (ids : List NodeId) : Prop :=
  ids.Nodup ∧ ∀ id ∈ ids, ∃ n, g.node? id = some n ∧ n.state = .unresolved

theorem wanting_unresolvedRunNodes (g : Graph) : Wanting g g.unresolvedRunNodes := by
  constructor
  · exact g.unresolvedRunNodes_lt.imp fun h => UInt64.ne_of_lt h
  · intro id hid
    exact (Graph.mem_unresolvedRunNodes_iff.mp hid).2

/-- The nodes after the first still want an RPM when it has been dealt with. -/
theorem Wanting.rest {ctx : Context τ} {id : NodeId} {rest : List NodeId} {n : Node}
    {s s' : RunState τ} {o : Outcome} (hw : Wanting s.graph (id :: rest))
    (h : resolveAt ctx id n s = (.ok o, s')) : Wanting s'.graph rest := by
  obtain ⟨hnodup, hnodes⟩ := hw
  obtain ⟨hid, hrest⟩ := List.nodup_cons.mp hnodup
  refine ⟨hrest, fun id' hid' => ?_⟩
  have hne : id' ≠ id := fun heq => hid (heq ▸ hid')
  rw [node?_resolveAt_of_ne h hne]
  exact hnodes id' (List.mem_cons_of_mem id hid')

/-- Nodes that are not in the list stay, and there is one outcome for each node in it. -/
theorem frame_resolveNodes {ctx : Context τ} {ids : List NodeId} {s s' : RunState τ}
    {outcomes : List Outcome} (hw : Wanting s.graph ids)
    (h : resolveNodes ctx ids s = (.ok outcomes, s')) :
    outcomes.map Outcome.node = ids ∧ ∀ id ∉ ids, s'.graph.node? id = s.graph.node? id := by
  induction ids generalizing s outcomes with
  | nil =>
    cases h
    exact ⟨rfl, fun _ _ => rfl⟩
  | cons id rest ih =>
    obtain ⟨n, hid, -⟩ := hw.2 id List.mem_cons_self
    obtain ⟨o, s₁, more, ho, hmore, rfl⟩ := (resolveNodes_cons hid).mp h
    obtain ⟨hnodes, hframe⟩ := ih (hw.rest ho) hmore
    constructor
    · rw [List.map_cons, hnodes, node_of_resolveAt ho]
    · intro id' hid'
      rw [List.mem_cons, not_or] at hid'
      rw [hframe id' hid'.2, node?_resolveAt_of_ne ho hid'.1]

theorem node_ne_of_mem {outcomes : List Outcome} {ids : List NodeId} {id : NodeId}
    (hids : outcomes.map Outcome.node = ids) (hfresh : id ∉ ids) {o : Outcome}
    (ho : o ∈ outcomes) : o.node ≠ id := by
  intro heq
  rw [← hids, ← heq] at hfresh
  exact hfresh (List.mem_map_of_mem ho)

/-- What dealing with one node of a list keeps, a run over the list keeps; and what it makes of the
node, the run makes of every node of the list. -/
theorem forall_resolveNodes {ctx : Context τ} {P : RunState τ → Prop}
    {R : Node → Node → Outcome → Prop} {ids : List NodeId} {s s' : RunState τ}
    {outcomes : List Outcome}
    (hstep : ∀ id ∈ ids, ∀ {n o t t'}, P t → t.graph.node? id = some n → n.state = .unresolved →
      resolveAt ctx id n t = (.ok o, t') →
      P t' ∧ ∃ after, t'.graph.node? id = some after ∧ R n after o)
    (hw : Wanting s.graph ids) (hs : P s) (h : resolveNodes ctx ids s = (.ok outcomes, s')) :
    P s' ∧ ∀ o ∈ outcomes, ∃ before after, s.graph.node? o.node = some before
      ∧ s'.graph.node? o.node = some after ∧ R before after o := by
  induction ids generalizing s outcomes with
  | nil =>
    cases h
    exact ⟨hs, fun _ ho => absurd ho List.not_mem_nil⟩
  | cons id rest ih =>
    obtain ⟨n, hid, hn⟩ := hw.2 id List.mem_cons_self
    obtain ⟨o, s₁, more, ho, hmore, rfl⟩ := (resolveNodes_cons hid).mp h
    have hnode : o.node = id := node_of_resolveAt ho
    obtain ⟨hids, hframe⟩ := frame_resolveNodes (hw.rest ho) hmore
    have hfresh : id ∉ rest := (List.nodup_cons.mp hw.1).1
    obtain ⟨hs₁, after, hafter, hR⟩ := hstep id List.mem_cons_self hs hid hn ho
    obtain ⟨hs', hall⟩ := ih (fun id' hid' => hstep id' (List.mem_cons_of_mem id hid'))
      (hw.rest ho) hs₁ hmore
    refine ⟨hs', fun o' ho' => ?_⟩
    rcases List.mem_cons.mp ho' with rfl | ho'
    · -- the other nodes leave this one alone
      rw [hnode]
      refine ⟨n, after, hid, ?_, hR⟩
      rw [hframe id hfresh, hafter]
    · obtain ⟨before, after', hbefore, hrest⟩ := hall o' ho'
      rw [node?_resolveAt_of_ne ho (node_ne_of_mem hids hfresh ho')] at hbefore
      exact ⟨before, after', hbefore, hrest⟩

/-- The outcomes fit the nodes before and after, and the lookups made meanwhile. -/
theorem resolveNodes_recorded {ctx : Context τ} {ids : List NodeId} {s s' : RunState (Recorded τ)}
    {outcomes : List Outcome} (hw : Wanting s.graph ids)
    (h : resolveNodes ctx.recorded ids s = (.ok outcomes, s')) :
    ∃ more, s'.record = s.record ++ more ∧
      List.Forall₂ (fun o q => ∃ before after, s.graph.node? o.node = some before
        ∧ s'.graph.node? o.node = some after ∧ q.1 = before.requirement
        ∧ Accounted before after q.2 o) outcomes (lookups more) := by
  induction ids generalizing s outcomes with
  | nil =>
    cases h
    exact ⟨[], (List.append_nil _).symm, .nil⟩
  | cons id rest ih =>
    obtain ⟨n, hid, hn⟩ := hw.2 id List.mem_cons_self
    obtain ⟨o, s₁, os, ho, hos, rfl⟩ := (resolveNodes_cons hid).mp h
    obtain ⟨answer, asked, after, hrec, hasked, hafter, hfits⟩ := resolveAt_recorded hid hn ho
    obtain ⟨hnodes, hframe⟩ := frame_resolveNodes (hw.rest ho) hos
    obtain ⟨more, hmore, hall⟩ := ih (hw.rest ho) hos
    have hnode : o.node = id := node_of_resolveAt ho
    have hfresh : id ∉ rest := (List.nodup_cons.mp hw.1).1
    refine ⟨.lookup n.requirement answer :: asked ++ more, ?_, ?_⟩
    · rw [hmore, hrec, List.append_assoc]
    · have hlookups : lookups (.lookup n.requirement answer :: asked ++ more)
          = (n.requirement, answer) :: lookups more := by
        rw [lookups_append]
        show (n.requirement, answer) :: lookups asked ++ lookups more = _
        rw [hasked]
        rfl
      -- the first node stays what it became, the others still are what they were
      have hothers : ∀ o ∈ os, o.node ≠ id := fun o ho => node_ne_of_mem hnodes hfresh ho
      rw [hlookups]
      refine .cons ⟨n, after, ?_, ?_, rfl, hfits⟩ ?_
      · rw [hnode, hid]
      · rw [hnode, hframe id hfresh, hafter]
      · refine ((List.forall₂_and_left os (lookups more)).mpr ⟨hothers, hall⟩).imp fun o q hoq => ?_
        obtain ⟨hne, before, after, hbefore, hrest⟩ := hoq
        rw [node?_resolveAt_of_ne ho hne] at hbefore
        exact ⟨before, after, hbefore, hrest⟩

/-! ### A whole run -/

/-- Whichever way a run over the nodes ends, what it does to them happens between log entries, with
nothing got at first. -/
theorem resolveUnresolved_apply (ctx : Context τ) (s : RunState τ) :
    ∃ s₀ w, s₀.graph = s.graph ∧ s₀.progress.cache = .empty
      ∧ s₀.progress.session.agent = s.progress.session.agent
      ∧ (resolveUnresolved ctx s).1
        = (resolveNodes ctx s.graph.unresolvedRunNodes s₀).1.map (Report.mk · false)
      ∧ (resolveUnresolved ctx s).2
        = ⟨(resolveNodes ctx s.graph.unresolvedRunNodes s₀).2.graph,
          ⟨w, (resolveNodes ctx s.graph.unresolvedRunNodes s₀).2.progress.session.agent⟩,
          (resolveNodes ctx s.graph.unresolvedRunNodes s₀).2.progress.cache⟩ := by
  -- the log entries before and after the nodes
  have hparts : ∃ s₀ k, s₀.graph = s.graph ∧ s₀.progress.cache = .empty
      ∧ s₀.progress.session.agent = s.progress.session.agent
      ∧ resolveUnresolved ctx s
        = andThen k (resolveNodes ctx s.graph.unresolvedRunNodes s₀)
      ∧ ∀ outcomes s₁, ∃ w, k outcomes s₁ = (.ok ⟨outcomes, false⟩,
        ⟨s₁.graph, ⟨⟨w, s₁.progress.session.agent⟩, s₁.progress.cache⟩⟩) := by
    refine ⟨(RunState.log .info
      s!"Resolving {s.graph.unresolvedRunNodes.length} unresolved nodes"
      ⟨s.graph, ⟨s.progress.session, .empty⟩⟩).2, ?k, rfl, rfl, rfl, ?run, ?_⟩
    case run => rfl
    · exact fun _ _ => ⟨_, rfl⟩
  obtain ⟨s₀, k, hgraph, hcache, hagent, hrun, hk⟩ := hparts
  rw [hrun]
  rcases hnodes : resolveNodes ctx s.graph.unresolvedRunNodes s₀ with ⟨e | outcomes, s₁⟩
  · refine ⟨s₀, s₁.progress.session.world, hgraph, hcache, hagent, ?_, ?_⟩
    · rw [hnodes]
      rfl
    · rw [hnodes]
      rfl
  · obtain ⟨w, hw⟩ := hk outcomes s₁
    refine ⟨s₀, w, hgraph, hcache, hagent, ?_, ?_⟩
    · rw [hnodes, andThen_ok, hw]
      rfl
    · rw [hnodes, andThen_ok, hw]

theorem resolveUnresolved_eq_ok {ctx : Context τ} {s s' : RunState τ} {report : Report}
    (h : resolveUnresolved ctx s = (.ok report, s')) :
    ∃ s₀ s₁ w', s₀.graph = s.graph ∧ s₀.progress.cache = .empty
      ∧ s₀.progress.session.agent = s.progress.session.agent
      ∧ resolveNodes ctx s.graph.unresolvedRunNodes s₀ = (.ok report.outcomes, s₁)
      ∧ s' = ⟨s₁.graph, ⟨⟨w', s₁.progress.session.agent⟩, s₁.progress.cache⟩⟩ := by
  obtain ⟨s₀, w, hgraph, hcache, hagent, hfst, hsnd⟩ := resolveUnresolved_apply ctx s
  rw [h] at hfst hsnd
  rcases hnodes : resolveNodes ctx s.graph.unresolvedRunNodes s₀ with ⟨e | outcomes, s₁⟩
  · rw [hnodes] at hfst
    cases hfst
  · rw [hnodes] at hfst hsnd
    cases hfst
    exact ⟨s₀, s₁, w, hgraph, hcache, hagent, hnodes, hsnd⟩

/-- What a run does after the nodes: save a summary and judge the failures. -/
def finish (ctx : Context τ) (options : RunOptions) (report : Report) :
    Step (RunState τ) Error Report := do
  saveTo ctx options.outputSummary
  judge options.stopOnFailure report

theorem resolveGraph_of_resolveUnresolved {ctx : Context τ} {options : RunOptions}
    {s s' : RunState τ} {report : Report} (hin : options.inputSummary = none)
    (h : resolveUnresolved ctx s = (.ok report, s')) :
    resolveGraph ctx options s = finish ctx options report s' := by
  unfold resolveGraph provision finish
  rw [hin, bind_apply]
  show andThen _ ((resolveUnresolved ctx >>= fun report =>
    saveTo ctx options.outputSummary >>= fun _ => pure report) s) = _
  rw [bind_apply, h, andThen_ok, bind_apply, bind_apply]
  rcases saveTo ctx options.outputSummary s' with ⟨e | _, s''⟩ <;> rfl

/-- A failure of the run over the nodes is the end of the run. -/
theorem resolveGraph_of_resolveUnresolved_error {ctx : Context τ} {options : RunOptions}
    {s s' : RunState τ} {e : Error} (hin : options.inputSummary = none)
    (h : resolveUnresolved ctx s = (.error e, s')) :
    resolveGraph ctx options s = (.error e, s') := by
  unfold resolveGraph provision
  rw [hin, bind_apply]
  show andThen _ ((resolveUnresolved ctx >>= fun report =>
    saveTo ctx options.outputSummary >>= fun _ => pure report) s) = _
  rw [bind_apply, h]
  rfl

/-- What is made of a report in the end. -/
def judged (stopOnFailure : Bool) (g : Graph) (report : Report) : Except Error Report :=
  if stopOnFailure && report.hasHardFailures then .error (stopError (failedRequirements g report))
  else .ok report

theorem judge_eq (stopOnFailure : Bool) (report : Report) (s : RunState τ) :
    judge stopOnFailure report s = (judged stopOnFailure s.graph report, s) := by
  unfold judge judged
  cases stopOnFailure && report.hasHardFailures <;> rfl

theorem judged_eq_ok {stopOnFailure : Bool} {g : Graph} {report r : Report}
    (h : judged stopOnFailure g report = .ok r) : r = report := by
  unfold judged at h
  split_ifs at h
  exact (Except.ok.inj h).symm

theorem restoreFrom_eq_ok {ctx : Context τ} {path : Path} {s s' : RunState τ} {report : Report}
    (h : restoreFrom ctx path s = (.ok report, s')) : report = .ofRestore := by
  obtain ⟨_, _, -, h⟩ := bind_eq_ok.mp h
  obtain ⟨_, _, -, h⟩ := bind_eq_ok.mp h
  cases h
  rfl

theorem saveTo_graph (ctx : Context τ) (path : Option Path) (s : RunState τ) :
    (saveTo ctx path s).2.graph = s.graph := by
  cases path <;> rfl

theorem saveTo_cache (ctx : Context τ) (path : Option Path) (s : RunState τ) :
    (saveTo ctx path s).2.progress.cache = s.progress.cache := by
  cases path <;> rfl

/-- To save a summary only what has been got so far is asked for. -/
theorem extends_saveTo (ctx : Context τ) (path : Option Path) :
    Extends RunState.record (fun e => ∃ summary, e = .contents summary)
      (saveTo ctx.recorded path) := by
  cases path with
  | none => exact .pure ()
  | some path =>
    have hsave : Extends Session.record (fun e => ∃ summary, e = .contents summary)
        (ctx.recorded.cloner.saveContents path) := by
      refine .bind ⟨fun s => ⟨[.contents (ctx.cloner.contents s.forget).1], rfl, ?_⟩⟩ fun _ =>
        .bind (.of_eq fun _ => rfl) fun _ => .of_eq fun _ => rfl
      intro e he
      exact ⟨_, List.mem_singleton.mp he⟩
    have hprogress : Extends Progress.record (fun e => ∃ summary, e = .contents summary)
        (Progress.onSession ((ctx.recorded.cloner.saveContents path).onError fun e =>
          Session.log .error .run s!"Failed to save cloned repo contents: {e.message}")) :=
      (hsave.onError fun _ => .of_eq fun _ => rfl).within (fun _ => rfl) fun _ _ => rfl
    show Extends RunState.record _ (RunState.onProgress _)
    exact hprogress.within (fun _ => rfl) fun _ _ => rfl

/-- After the nodes no node changes, and the report stays. -/
theorem finish_apply (ctx : Context τ) (options : RunOptions) (report : Report) (s : RunState τ) :
    (finish ctx options report s).2.graph = s.graph
      ∧ ∀ r, (finish ctx options report s).1 = .ok r → r = report := by
  have hgraph := saveTo_graph ctx options.outputSummary s
  unfold finish
  rw [bind_apply]
  rcases hs : saveTo ctx options.outputSummary s with ⟨e | _, s'⟩
  · rw [hs] at hgraph
    exact ⟨hgraph, fun r h => absurd h (by simp)⟩
  · rw [hs] at hgraph
    rw [andThen_ok, judge_eq]
    exact ⟨hgraph, fun _ => judged_eq_ok⟩

theorem finish_cache (ctx : Context τ) (options : RunOptions) (report : Report) (s : RunState τ) :
    (finish ctx options report s).2.progress.cache = s.progress.cache := by
  have hcache := saveTo_cache ctx options.outputSummary s
  unfold finish
  rw [bind_apply]
  rcases hs : saveTo ctx options.outputSummary s with ⟨e | _, s'⟩
  · rw [hs] at hcache
    exact hcache
  · rw [hs] at hcache
    rw [andThen_ok, judge_eq]
    exact hcache

theorem extends_finish_contents (ctx : Context τ) (options : RunOptions) (report : Report) :
    Extends RunState.record (fun e => ∃ summary, e = .contents summary)
      (finish ctx.recorded options report) := by
  refine .bind (extends_saveTo ctx options.outputSummary) fun _ => .of_eq fun s => ?_
  rw [judge_eq]

/-- After the nodes nothing is looked up. -/
theorem extends_finish (ctx : Context τ) (options : RunOptions) (report : Report) :
    Extends RunState.record (fun e => e.lookup? = none) (finish ctx.recorded options report) := by
  refine (extends_finish_contents ctx options report).mono fun e he => ?_
  obtain ⟨summary, rfl⟩ := he
  rfl

/-- Whenever a run without a summary gets through its nodes, its outcomes are about the nodes that
held a slot and wanted an RPM, in the order of their numbers. For each of them one requirement was
looked up, the node's own, and the outcome fits the node before and after and the answer. -/
theorem forall_accounted {ctx : Context τ} {options : RunOptions} {start final : RunState τ}
    {report : Report} {result : Except Error Report} (hin : options.inputSummary = none)
    (hloop : (resolveUnresolved ctx start).1 = .ok report)
    (hrun : resolveGraph ctx options start = (result, final)) :
    report.outcomes.map Outcome.node = start.graph.unresolvedRunNodes
      ∧ start.graph.unresolvedRunNodes.Pairwise (· < ·)
      ∧ (∀ r, result = .ok r → r = report)
      ∧ ∃ asked, resolveGraph ctx.recorded options (start.withRecord [])
          = (result, final.withRecord asked)
        ∧ List.Forall₂ (fun o q => ∃ before after, start.graph.node? o.node = some before
          ∧ final.graph.node? o.node = some after ∧ q.1 = before.requirement
          ∧ Accounted before after q.2 o) report.outcomes (lookups asked) := by
  -- the recorded run does what the run does
  have hmirror := (mirrors_resolveGraph ctx options).run_forget (start.withRecord [])
  rw [RunState.forget_withRecord, hrun] at hmirror
  have hmirrorLoop := (mirrors_resolveUnresolved ctx).run_forget (start.withRecord [])
  rw [RunState.forget_withRecord] at hmirrorLoop
  rcases hrec : resolveUnresolved ctx.recorded (start.withRecord []) with ⟨answer, s₁⟩
  rw [hmirrorLoop, hrec] at hloop
  change answer = .ok report at hloop
  subst hloop
  obtain ⟨s₀, s₂, w', hgraph₀, -, hagent, hnodes, rfl⟩ := resolveUnresolved_eq_ok hrec
  change s₀.graph = start.graph at hgraph₀
  have hwanting : Wanting s₀.graph start.graph.unresolvedRunNodes := by
    rw [hgraph₀]
    exact wanting_unresolvedRunNodes start.graph
  obtain ⟨hids, -⟩ := frame_resolveNodes hwanting hnodes
  obtain ⟨asked, hasked, hall⟩ := resolveNodes_recorded hwanting hnodes
  rw [resolveGraph_of_resolveUnresolved hin hrec] at hmirror
  obtain ⟨hgraph, hreport⟩ := finish_apply ctx.recorded options report
    ⟨s₂.graph, ⟨⟨w', s₂.progress.session.agent⟩, s₂.progress.cache⟩⟩
  obtain ⟨more, hmore, hnone⟩ := (extends_finish ctx options report).exists_more
    ⟨s₂.graph, ⟨⟨w', s₂.progress.session.agent⟩, s₂.progress.cache⟩⟩
  rw [resolveGraph_of_resolveUnresolved hin hrec]
  rcases hfin : finish ctx.recorded options report
    ⟨s₂.graph, ⟨⟨w', s₂.progress.session.agent⟩, s₂.progress.cache⟩⟩ with ⟨result', s₃⟩
  rw [hfin] at hmirror hgraph hmore hreport
  cases hmirror
  refine ⟨hids, start.graph.unresolvedRunNodes_lt, hreport, s₃.record, rfl, ?_⟩
  -- nothing was asked before the nodes, and nothing is looked up after them
  have hlookups : lookups s₃.record = lookups asked := by
    show lookups s₃.record = _
    rw [hmore, lookups_append, lookups_eq_nil hnone, List.append_nil]
    show lookups s₂.record = _
    have hempty : s₀.record = [] := congrArg Recorded.record hagent
    rw [hasked, hempty, List.nil_append]
  rw [hlookups]
  refine hall.imp fun o q hoq => ?_
  obtain ⟨before, after, hbefore, hafter, hfits⟩ := hoq
  refine ⟨before, after, ?_, ?_, hfits⟩
  · rw [← hgraph₀]
    exact hbefore
  · show s₃.graph.node? o.node = some after
    rw [hgraph]
    exact hafter

/-! ### A run over two nodes -/

/-- A run node that wants an RPM. -/
def wantedRun (id : NodeId) (name : String) (implicit : Bool) : Node :=
  ⟨id, ⟨name, none, none⟩, .unresolved, .run, implicit, none, none, none, none, none⟩

/-- Two run nodes, the second of which something built later may meet. -/
def zlibAndCurl : Graph where
  nodes := .ofList [(0, wantedRun 0 "zlib" false), (1, wantedRun 1 "curl" true)]
  needs := ∅
  neededBy := ∅
  slots := .ofList [(⟨"zlib", none, none⟩, 0), (⟨"curl", none, none⟩, 1)]

/-- Where zlib has a package of its name, and nothing else is provided. -/
def zlibOnly : Context Unit where
  cloner := .ofAnswers (fun r => .ok (if r.name = "zlib" then ["zlib"] else [])) fun _ _ => .ok false
  arbiter := .ofAnswers .ok
  manifest := .ofList []
  outDir := ⟨"/out"⟩
  cloneDeps := false

/-- The start of a run over the two nodes, on an empty disk. -/
def zlibStart : RunState Unit := ⟨zlibAndCurl, ⟨⟨.start ⟨∅, [], ∅⟩, ()⟩, .empty⟩⟩

/-- Zlib is resolved and curl has to wait. -/
def zlibReport : Report where
  outcomes := [.resolved 0 ⟨"/out/zlib.rpm"⟩ .cached,
    .softFailure 1
      "failed to resolve requirement: failed to find any packages providing 'curl'"]
  restored := false

theorem accounted_zlibReport :
    (resolveUnresolved zlibOnly zlibStart).1 = .ok zlibReport
      ∧ zlibReport.outcomes.map Outcome.node = zlibAndCurl.unresolvedRunNodes
      ∧ ∃ asked, List.Forall₂ (fun o q => ∃ before after,
          zlibAndCurl.node? o.node = some before
          ∧ (resolveGraph zlibOnly ⟨none, none, false⟩ zlibStart).2.graph.node? o.node = some after
          ∧ q.1 = before.requirement ∧ Accounted before after q.2 o)
        zlibReport.outcomes (lookups asked) := by
  have hloop : (resolveUnresolved zlibOnly zlibStart).1 = .ok zlibReport := rfl
  obtain ⟨hids, -, -, asked, -, hall⟩ :=
    @forall_accounted _ _ ⟨none, none, false⟩ _ _ _ _ rfl hloop rfl
  exact ⟨hloop, hids, asked, hall⟩

end RpmProvision.Resolution
