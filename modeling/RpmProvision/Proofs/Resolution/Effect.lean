/-
What a run makes of its graph.

A run may end with a report, fail in the middle of its nodes, fail when it saves what it got, or take
packages over from a summary. However it ends, it gives RPMs to some of the nodes that held a slot
and wanted one, and it changes nothing else. If it ends with a report, the outcomes tell which nodes
have got an RPM.

* **`advances_snd_resolveGraph`** — what a run makes of its graph, however it ends;
* **`advances_resolveGraph`** — a run that ends with a report, and its outcomes.
-/
import RpmProvision.Proofs.Graph.Advance
import RpmProvision.Proofs.Resolution.Outcomes

namespace RpmProvision.Resolution

open Step RpmProvision.Graph

variable {τ α : Type} {ctx : Context τ}

/-! ### However a run ends -/

/-- What a run does outside of its graph leaves the graph alone. -/
theorem maintains_onProgress {P : Graph → Prop} (x : Step (Progress τ) Error α) :
    Maintains (fun s : RunState τ => P s.graph) (RunState.onProgress x) := .within fun _ hs => hs

theorem maintains_fail {P : Graph → Prop} (id : NodeId) (n : Node) (e : Error) :
    Maintains (fun s : RunState τ => P s.graph) (fail id n e) := by
  refine ⟨fun s hs => ?_⟩
  cases he : e.isFatal with
  | true =>
    rw [fail_of_isFatal he]
    exact hs
  | false =>
    obtain ⟨w, hw⟩ := fail_of_not_isFatal he id n s
    rw [hw]
    exact hs

theorem maintains_restoreFrom {P : Graph → Prop} (ctx : Context τ) (path : Path) :
    Maintains (fun s : RunState τ => P s.graph) (restoreFrom ctx path) :=
  .bind (maintains_onProgress _) fun _ => .bind (maintains_onProgress _) fun _ => .pure _

theorem maintains_saveTo {P : Graph → Prop} (ctx : Context τ) (path : Option Path) :
    Maintains (fun s : RunState τ => P s.graph) (saveTo ctx path) := by
  cases path with
  | none => exact .pure _
  | some path => exact maintains_onProgress _

theorem maintains_judge {P : Graph → Prop} (stopOnFailure : Bool) (report : Report) :
    Maintains (fun s : RunState τ => P s.graph) (judge stopOnFailure report) :=
  .of_eq fun s => by rw [judge_eq]

/-- For one node the node with its RPM is written, or nothing. -/
theorem advances_snd_resolveAt (ctx : Context τ) {ids : List NodeId} {id : NodeId} {n : Node}
    {s : RunState τ} (hid : id ∈ ids) (hn : s.graph.node? id = some n) :
    Advances ids s.graph (resolveAt ctx id n s).2.graph := by
  rcases hr : resolveNode ctx n s.progress with ⟨e | n', p⟩
  · rw [resolveAt_of_error hr]
    exact (maintains_fail id n e).of_run ⟨s.graph, p⟩ (.refl ids s.graph)
  · obtain ⟨hstate, rpm, b, rfl⟩ := resolveNode_eq_ok hr
    rw [resolveAt_of_ok hr]
    exact .setNode hid hn hstate rpm b

/-- What was done to the nodes before a fatal failure stays done, and no more is done. -/
theorem advances_snd_resolveNodes (ctx : Context τ) {ids all : List NodeId}
    (hall : ∀ id ∈ ids, id ∈ all) (s : RunState τ) :
    Advances all s.graph (resolveNodes ctx ids s).2.graph := by
  induction ids generalizing s with
  | nil => exact .refl all s.graph
  | cons id rest ih =>
    have hrest : ∀ id' ∈ rest, id' ∈ all := fun id' h => hall id' (List.mem_cons_of_mem id h)
    rw [resolveNodes, bind_apply, asks_apply, andThen_ok]
    cases hn : s.graph.node? id with
    | none => exact ih hrest s
    | some n =>
      have hhead := advances_snd_resolveAt ctx (hall id List.mem_cons_self) hn
      have htail : Maintains (fun t => Advances all s.graph t.graph) (resolveNodes ctx rest) :=
        ⟨fun t ht => ht.trans (ih hrest t)⟩
      dsimp only
      rw [bind_apply]
      rcases hr : resolveAt ctx id n s with ⟨e | o, s₁⟩
      · rw [hr] at hhead
        exact hhead
      · rw [hr] at hhead
        exact (Maintains.bind htail fun _ => .pure _).of_run s₁ hhead

theorem advances_snd_resolveUnresolved (ctx : Context τ) (s : RunState τ) :
    Advances s.graph.unresolvedRunNodes s.graph (resolveUnresolved ctx s).2.graph := by
  obtain ⟨s₀, w, hgraph, -, -, -, hrun⟩ := resolveUnresolved_apply ctx s
  rw [hrun]
  have hnodes : Advances s.graph.unresolvedRunNodes s₀.graph
      (resolveNodes ctx s.graph.unresolvedRunNodes s₀).2.graph :=
    advances_snd_resolveNodes ctx (fun _ h => h) s₀
  rw [hgraph] at hnodes
  exact hnodes

/-- However a run ends, some of the nodes that held a slot and wanted an RPM have got one, and
nothing else has changed. -/
theorem advances_snd_resolveGraph (ctx : Context τ) (options : RunOptions) (s : RunState τ) :
    Advances s.graph.unresolvedRunNodes s.graph (resolveGraph ctx options s).2.graph := by
  cases hin : options.inputSummary with
  | some path =>
    -- a run that takes packages over looks at no node
    unfold resolveGraph provision
    rw [hin]
    have hprovided : Maintains (fun t : RunState τ => Advances s.graph.unresolvedRunNodes s.graph
        t.graph) (restoreFrom ctx path >>= fun report =>
          saveTo ctx options.outputSummary >>= fun _ => pure report) :=
      .bind (maintains_restoreFrom ctx path) fun _ => .bind (maintains_saveTo ctx _) fun _ => .pure _
    exact (hprovided.bind fun report => maintains_judge _ report).of_run s (.refl _ s.graph)
  | none =>
    have hloop := advances_snd_resolveUnresolved ctx s
    rcases hr : resolveUnresolved ctx s with ⟨e | report, s₁⟩
    · rw [resolveGraph_of_resolveUnresolved_error hin hr]
      rw [hr] at hloop
      exact hloop
    · rw [resolveGraph_of_resolveUnresolved hin hr]
      rw [hr] at hloop
      have hfinish : Maintains (fun t => Advances s.graph.unresolvedRunNodes s.graph t.graph)
          (finish ctx options report) :=
        .bind (maintains_saveTo ctx _) fun _ => maintains_judge _ report
      exact hfinish.of_run s₁ hloop

/-! ### A run with a report -/

/-- What a resolved outcome says of its node: it has got the RPM and the state that are told. -/
def Provided (before after : Node) (o : Outcome) : Prop :=
  o.isResolved → ∃ rpm fromToolchain, after = before.resolved rpm fromToolchain
    ∧ o = .resolved o.node rpm after.state

theorem provided_of_resolveAt {id : NodeId} {n : Node} {o : Outcome} {s s' : RunState τ}
    (hn : s.graph.node? id = some n) (h : resolveAt ctx id n s = (.ok o, s')) :
    ∃ after, s'.graph.node? id = some after ∧ Provided n after o := by
  rcases resolveAt_eq_ok h with ⟨n', hn', rfl, rfl⟩ | ⟨e, w, -, -, rfl, rfl⟩
  · obtain ⟨-, rpm, b, rfl⟩ := resolveNode_eq_ok (Prod.ext hn' rfl)
    refine ⟨n.resolved rpm b, node?_setNode_self .., fun _ => ⟨rpm, b, rfl, ?_⟩⟩
    simp [resolvedOutcome, Outcome.node]
  · refine ⟨n, hn, fun hr => ?_⟩
    rw [isResolved_failureOutcome] at hr
    cases hr

theorem resolveGraph_eq_ok {options : RunOptions} {s s' : RunState τ} {report : Report}
    (hin : options.inputSummary = none) (h : resolveGraph ctx options s = (.ok report, s')) :
    ∃ s₁, resolveUnresolved ctx s = (.ok report, s₁) ∧ s'.graph = s₁.graph := by
  rcases hs : resolveUnresolved ctx s with ⟨e | report₁, s₁⟩
  · rw [resolveGraph_of_resolveUnresolved_error hin hs] at h
    cases h
  · rw [resolveGraph_of_resolveUnresolved hin hs] at h
    obtain ⟨hgraph, hreport⟩ := finish_apply ctx options report₁ s₁
    rw [h] at hgraph hreport
    rw [hreport report rfl]
    exact ⟨s₁, rfl, hgraph⟩

theorem advances_resolveUnresolved {s s' : RunState τ} {report : Report}
    (h : resolveUnresolved ctx s = (.ok report, s')) :
    report.outcomes.map Outcome.node = s.graph.unresolvedRunNodes
      ∧ Advances s.graph.unresolvedRunNodes s.graph s'.graph
      ∧ ∀ o ∈ report.outcomes, ∃ before after, s.graph.node? o.node = some before
        ∧ s'.graph.node? o.node = some after ∧ Provided before after o := by
  obtain ⟨s₀, s₁, w, hgraph₀, -, -, hnodes, rfl⟩ := resolveUnresolved_eq_ok h
  have hwanting : Wanting s₀.graph s.graph.unresolvedRunNodes := by
    rw [hgraph₀]
    exact wanting_unresolvedRunNodes s.graph
  have hadv := advances_snd_resolveUnresolved ctx s
  rw [h] at hadv
  obtain ⟨-, hall⟩ := forall_resolveNodes (P := fun _ => True)
    (fun _ _ _ _ _ _ _ hn _ ho => ⟨trivial, provided_of_resolveAt hn ho⟩) hwanting trivial hnodes
  rw [hgraph₀] at hall
  exact ⟨(frame_resolveNodes hwanting hnodes).1, hadv, hall⟩

/-- A run that ends with a report gives RPMs to nodes that held a slot and wanted one, and changes
nothing else. There is an outcome for each of these nodes. -/
theorem advances_resolveGraph {options : RunOptions} {s s' : RunState τ} {report : Report}
    (hin : options.inputSummary = none) (h : resolveGraph ctx options s = (.ok report, s')) :
    report.outcomes.map Outcome.node = s.graph.unresolvedRunNodes
      ∧ Advances s.graph.unresolvedRunNodes s.graph s'.graph
      ∧ ∀ o ∈ report.outcomes, ∃ before after, s.graph.node? o.node = some before
        ∧ s'.graph.node? o.node = some after ∧ Provided before after o := by
  obtain ⟨s₁, hs, hgraph⟩ := resolveGraph_eq_ok hin h
  rw [hgraph]
  exact advances_resolveUnresolved hs

end RpmProvision.Resolution
