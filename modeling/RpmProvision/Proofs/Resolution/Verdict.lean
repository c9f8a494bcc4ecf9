/-
What a run does about failures of nodes.

With or without the wish to stop on failures, a run asks for the same things and leaves everything in
the same state. The wish only decides what is made of the report in the end.

* **`Verdict`** — what a run that stops on failures ends in, by what the other run ends in;
* **`failedNodes`** — the nodes behind the failures of a report, all of them still in the graph;
* **`differs_only_in_verdict`** — two runs that differ in the wish only.
-/
import RpmProvision.Proofs.Resolution.Outcomes

namespace RpmProvision.Resolution

open Step

variable {τ : Type}

/-- What a run that stops on failures ends in, by what it ends in otherwise. An error is the same
error. A report without failures is the same report. For the failures of a report there is an error
with their number and the requirements of their nodes, which the run has left as they were. -/
inductive Verdict (start final : Graph) : Except Error Report → Except Error Report → Prop
  | error (e : Error) : Verdict start final (.error e) (.error e)
  | passed {report : Report} (h : report.hardFailures = []) :
      Verdict start final (.ok report) (.ok report)
  | failed {report : Report} {nodes : List Node} (h : report.hardFailures ≠ [])
      (hnodes : List.Forall₂
        (fun o n => start.node? o.node = some n ∧ final.node? o.node = some n)
        report.hardFailures nodes) :
      Verdict start final (.ok report) (.error ⟨.stopOnFailure,
        s!"failed to resolve {report.hardFailures.length} node(s): "
          ++ String.intercalate ", " (nodes.map (·.requirement.toText))⟩)

/-! ### The report and the state -/

/-- All that a run does is done before its report is judged. -/
theorem resolveGraph_eq (ctx : Context τ) (options : RunOptions) (s : RunState τ) :
    resolveGraph ctx options s
      = ((provision ctx options.inputSummary options.outputSummary s).1.bind
          (judged options.stopOnFailure
            (provision ctx options.inputSummary options.outputSummary s).2.graph),
        (provision ctx options.inputSummary options.outputSummary s).2) := by
  unfold resolveGraph
  rw [bind_apply]
  rcases provision ctx options.inputSummary options.outputSummary s with ⟨e | report, s'⟩
  · rfl
  · rw [andThen_ok, judge_eq]
    rfl

theorem judged_false (g : Graph) (report : Report) : judged false g report = .ok report := rfl

theorem judged_of_hardFailures_eq_nil {report : Report} (h : report.hardFailures = [])
    (stopOnFailure : Bool) (g : Graph) : judged stopOnFailure g report = .ok report := by
  have hnone : report.hasHardFailures = false := by
    rw [Bool.eq_false_iff, ne_eq, Report.hasHardFailures_iff, not_not]
    exact h
  rw [judged, hnone, Bool.and_false]
  rfl

theorem judged_true {report : Report} (h : report.hardFailures ≠ []) (g : Graph) :
    judged true g report = .error (stopError (failedRequirements g report)) := by
  rw [judged, Report.hasHardFailures_iff report |>.mpr h]
  rfl

/-! ### The nodes behind the failures -/

/-- The nodes of a graph that the failures of a report are about. -/
def failedNodes (g : Graph) (report : Report) : List Node :=
  report.hardFailures.filterMap fun o => g.node? o.node

theorem failedRequirements_eq (g : Graph) (report : Report) :
    failedRequirements g report = (failedNodes g report).map (·.requirement.toText) :=
  List.map_filterMap.symm

/-- A node that failed is what it was before. -/
theorem node?_resolveAt_self {ctx : Context τ} {id : NodeId} {n : Node} {s s' : RunState τ}
    {o : Outcome} (hid : s.graph.node? id = some n) (h : resolveAt ctx id n s = (.ok o, s')) :
    ∃ after, s'.graph.node? id = some after ∧ (o.isHard → after = n) := by
  rcases resolveAt_eq_ok h with ⟨n', -, rfl, rfl⟩ | ⟨e, w, -, -, -, rfl⟩
  · exact ⟨n', Graph.node?_setNode_self .., fun hard => by cases hard⟩
  · exact ⟨n, hid, fun _ => rfl⟩

/-- To save a summary changes neither the report nor the graph. -/
theorem graph_of_saveTo {ctx : Context τ} {outputSummary : Option Path}
    {x : Step (RunState τ) Error Report} {s s' : RunState τ} {report : Report}
    (h : (x >>= fun report => saveTo ctx outputSummary >>= fun _ => pure report) s
      = (.ok report, s')) : ∃ s₁, x s = (.ok report, s₁) ∧ s'.graph = s₁.graph := by
  obtain ⟨report', s₁, hx, h⟩ := bind_eq_ok.mp h
  obtain ⟨_, s₂, hsave, h⟩ := bind_eq_ok.mp h
  cases h
  have hgraph := saveTo_graph ctx outputSummary s₁
  rw [hsave] at hgraph
  exact ⟨s₁, hx, hgraph⟩

/-- The nodes behind the failures of a run are in the graph, and the run has left them alone. -/
theorem forall_hardFailures {ctx : Context τ} {inputSummary outputSummary : Option Path}
    {s s' : RunState τ} {report : Report}
    (h : provision ctx inputSummary outputSummary s = (.ok report, s')) :
    ∀ o ∈ report.hardFailures, ∃ n, s.graph.node? o.node = some n
      ∧ s'.graph.node? o.node = some n := by
  cases inputSummary with
  | some path =>
    -- a run that takes packages over deals with no node
    obtain ⟨s₁, hrestore, -⟩ := graph_of_saveTo h
    rw [restoreFrom_eq_ok hrestore]
    exact fun o ho => absurd ho List.not_mem_nil
  | none =>
    obtain ⟨s₁, hloop, hgraph⟩ := graph_of_saveTo h
    obtain ⟨s₀, s₂, w, hstart, -, -, hnodes, rfl⟩ := resolveUnresolved_eq_ok hloop
    have hwanting : Wanting s₀.graph s.graph.unresolvedRunNodes := by
      rw [hstart]
      exact wanting_unresolvedRunNodes s.graph
    obtain ⟨-, hall⟩ := forall_resolveNodes (P := fun _ => True)
      (R := fun before after o => o.isHard → after = before)
      (fun _ _ _ _ _ _ _ hid _ ho => ⟨trivial, node?_resolveAt_self hid ho⟩) hwanting trivial hnodes
    intro o ho
    obtain ⟨hmem, hhard⟩ := List.mem_filter.mp ho
    obtain ⟨before, after, hbefore, hafter, hsame⟩ := hall o hmem
    rw [hsame hhard] at hafter
    rw [hstart] at hbefore
    rw [hgraph]
    exact ⟨before, hbefore, hafter⟩

theorem forall₂_failedNodes {g g' : Graph} {report : Report}
    (h : ∀ o ∈ report.hardFailures, ∃ n, g.node? o.node = some n ∧ g'.node? o.node = some n) :
    List.Forall₂ (fun o n => g.node? o.node = some n ∧ g'.node? o.node = some n)
      report.hardFailures (failedNodes g' report) := by
  have hfinal : List.Forall₂ (fun o n => g'.node? o.node = some n) report.hardFailures
      (failedNodes g' report) := by
    refine Graph.forall₂_filterMap fun o ho => ?_
    obtain ⟨n, -, hn⟩ := h o ho
    exact ⟨n, hn⟩
  refine ((List.forall₂_and_left report.hardFailures _).mpr ⟨h, hfinal⟩).imp fun o n hon => ?_
  obtain ⟨⟨n', hbefore, hafter⟩, hn⟩ := hon
  cases hafter.symm.trans hn
  exact ⟨hbefore, hn⟩

/-! ### Two runs -/

/-- The wish to stop on failures changes nothing of a run but its verdict. Whatever the cloner and the
arbiter answer, with it and without it a run makes the same requests, gets the same answers and ends
in the same state: the graph, the cloner, the disk with the summary on it. -/
theorem differs_only_in_verdict (ctx : Context τ) (inputSummary outputSummary : Option Path)
    (start : RunState τ) :
    ∃ asked final result result',
      resolveGraph ctx ⟨inputSummary, outputSummary, false⟩ start = (result, final)
      ∧ resolveGraph ctx ⟨inputSummary, outputSummary, true⟩ start = (result', final)
      ∧ resolveGraph ctx.recorded ⟨inputSummary, outputSummary, false⟩ (start.withRecord [])
        = (result, final.withRecord asked)
      ∧ resolveGraph ctx.recorded ⟨inputSummary, outputSummary, true⟩ (start.withRecord [])
        = (result', final.withRecord asked)
      ∧ Verdict start.graph final.graph result result' := by
  have hmirror := (ctx.lifts_recorded.provision inputSummary outputSummary).run_forget
    (start.withRecord [])
  change provision ctx inputSummary outputSummary start = _ at hmirror
  simp only [resolveGraph_eq]
  rcases hrec : provision ctx.recorded inputSummary outputSummary (start.withRecord [])
    with ⟨answer, final⟩
  rw [hrec] at hmirror
  rw [hmirror]
  refine ⟨final.record, final.forget, _, _, rfl, rfl, rfl, rfl, ?_⟩
  change Verdict start.graph final.graph (answer.bind (judged false final.graph))
    (answer.bind (judged true final.graph))
  cases answer with
  | error e => exact .error e
  | ok report =>
    show Verdict _ _ (judged false final.graph report) (judged true final.graph report)
    rw [judged_false]
    by_cases h : report.hardFailures = []
    · rw [judged_of_hardFailures_eq_nil h]
      exact .passed h
    · have hnodes : List.Forall₂
          (fun o n => start.graph.node? o.node = some n ∧ final.graph.node? o.node = some n)
          report.hardFailures (failedNodes final.graph report) :=
        forall₂_failedNodes (forall_hardFailures hmirror)
      rw [judged_true h, failedRequirements_eq, stopError, List.length_map, ← hnodes.length_eq]
      exact .failed h hnodes

/-- Where nothing is provided zlib fails for good, and curl may still be met by something built
later. -/
example : (resolveGraph { zlibOnly with cloner := .ofAnswers (fun _ => .ok []) fun _ _ => .ok false }
      ⟨none, none, true⟩ zlibStart).1
    = .error ⟨.stopOnFailure, "failed to resolve 1 node(s): zlib"⟩ := rfl

end RpmProvision.Resolution
