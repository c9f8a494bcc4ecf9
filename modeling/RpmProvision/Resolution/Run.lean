/-
Resolving the nodes of a graph.

The run nodes that want an RPM are resolved in the order of their numbers. A failure of one node
does not keep the others from being resolved; only a failure that concerns more than the node ends
the run. With a summary of an earlier run no node is touched, and the packages are taken over.

* **`resolveNodes`** — the outcomes for a list of nodes;
* **`resolveGraph`** — a whole run: a summary is saved before failures of nodes count as an error.
-/
import RpmProvision.Resolution.Node
import RpmProvision.Resolution.Report

namespace RpmProvision.Resolution

/-- The state of a run. -/
structure RunState (τ : Type) where
  graph : Graph
  progress : Progress τ

namespace RunState

variable {τ α : Type}

/-- A step over the progress. -/
def onProgress (x : Step (Progress τ) Error α) : Step (RunState τ) Error α :=
  x.within RunState.progress fun progress s => { s with progress }

/-- A step over a node of the graph, which is put back however the step ends. -/
def onNode (id : NodeId) (n : Node) (x : Step (Resolving τ) Error α) :
    Step (RunState τ) Error α := fun s =>
  match x ⟨n, s.progress⟩ with
  | (r, ⟨after, progress⟩) => (r, ⟨s.graph.putBack id n after, progress⟩)

/-- A step over the session. -/
def onSession (x : Step (Session τ) Error α) : Step (RunState τ) Error α :=
  onProgress (Progress.onSession x)

/-- Add an event to the log. -/
def log (level : Level) (message : String) : Step (RunState τ) Error Unit :=
  onSession (Session.log level .run message)

end RunState

/-- Which summaries a run uses, and whether failures of nodes fail the run. -/
structure RunOptions where
  inputSummary : Option Path
  outputSummary : Option Path
  stopOnFailure : Bool

variable {τ : Type}

/-- The list of the nodes that need a failed node, for the log. -/
def dependentsMessage (n : Node) (dependents : List Node) : String :=
  s!"Failed to resolve all nodes in the graph while resolving '{n.toText}'\n"
    ++ "Nodes which have this as a dependency:"
    ++ String.join (dependents.map fun d => s!"\n\t'{d.toText}' depends on '{n.toText}'")

/-- Report a node that failed for good. -/
def logFailure (id : NodeId) (reason : String) : Step (RunState τ) Error Unit := do
  match ← Step.asks fun s => (s.graph.node? id, s.graph.dependents id) with
  | (none, _) => pure ()
  | (some n, dependents) => do
    RunState.log .warn s!"Failed to resolve graph node '{n.toText}':\n{reason}"
    RunState.log .debug (dependentsMessage n dependents)

/-- The outcome of a node that failed. -/
def failureOutcome (id : NodeId) (n : Node) (e : Error) : Outcome :=
  if e.kind = .providerLookup ∧ n.implicit then .softFailure id e.message
  else .hardFailure id e.message

/-- The outcome of a node that was resolved. -/
def resolvedOutcome (id : NodeId) (n : Node) : Outcome :=
  .resolved id (n.rpmPath.getD ⟨""⟩) n.state

/-- Deal with a node that failed. -/
def fail (id : NodeId) (n : Node) (e : Error) : Step (RunState τ) Error Outcome :=
  if e.isFatal then Step.fail e
  else do
    let o := failureOutcome id n e
    if o.isHard then logFailure id e.message
    pure o

/-- Resolve a node of the graph. -/
def resolveAt (ctx : Context τ) (id : NodeId) (n : Node) : Step (RunState τ) Error Outcome := do
  let resolution := do
    resolveInPlace ctx
    Step.asks Resolving.node
  match ← (RunState.onNode id n resolution).outcome with
  | .ok n' => pure (resolvedOutcome id n')
  | .error e => fail id n e

/-- Resolve nodes one after another. -/
def resolveNodes (ctx : Context τ) : List NodeId → Step (RunState τ) Error (List Outcome)
  | [] => pure []
  | id :: rest => do
    match ← Step.asks fun s => s.graph.node? id with
    | none => resolveNodes ctx rest
    | some n => do
      let o ← resolveAt ctx id n
      let more ← resolveNodes ctx rest
      pure (o :: more)

/-- Resolve the run nodes that want an RPM. -/
def resolveUnresolved (ctx : Context τ) : Step (RunState τ) Error Report := do
  Step.modify fun s => { s with progress := { s.progress with cache := .empty } }
  let unresolved ← Step.asks fun s => s.graph.unresolvedRunNodes
  RunState.log .info s!"Resolving {unresolved.length} unresolved nodes"
  let outcomes ← resolveNodes ctx unresolved
  let report : Report := ⟨outcomes, false⟩
  let cloned ← Step.asks fun s => s.progress.cache.size
  RunState.log .info
    (s!"Resolved {report.resolvedCount} nodes ({report.softCount} unresolved implicit, "
      ++ s!"{report.hardFailures.length} failed), cloned {cloned} packages")
  pure report

/-- Take the packages over from a summary. -/
def restoreFrom (ctx : Context τ) (path : Path) : Step (RunState τ) Error Report := do
  RunState.log .info s!"Restoring cloned packages from {path.text}"
  RunState.onSession ((ctx.cloner.restoreContents path).onError fun e =>
    Session.log .error .run s!"Failed to restore cloned repo contents: {e.message}")
  pure .ofRestore

/-- Save a summary, if one is wanted. -/
def saveTo (ctx : Context τ) : Option Path → Step (RunState τ) Error Unit
  | none => pure ()
  | some path =>
    RunState.onSession ((ctx.cloner.saveContents path).onError fun e =>
      Session.log .error .run s!"Failed to save cloned repo contents: {e.message}")

/-- The requirements of the nodes that failed for good. -/
def failedRequirements (g : Graph) (report : Report) : List String :=
  report.hardFailures.filterMap fun o => (g.node? o.node).map (·.requirement.toText)

/-- The error of a run some of whose nodes failed for good. -/
def stopError (failed : List String) : Error :=
  ⟨.stopOnFailure,
    s!"failed to resolve {failed.length} node(s): " ++ String.intercalate ", " failed⟩

/-- Let failures of nodes count as an error of the run, if that is wanted. -/
def judge (stopOnFailure : Bool) (report : Report) : Step (RunState τ) Error Report := do
  if stopOnFailure && report.hasHardFailures then do
    let failed ← Step.asks fun s => failedRequirements s.graph report
    Step.fail (stopError failed)
  else pure report

/-- Deal with a graph, and save what was got. -/
def provision (ctx : Context τ) (inputSummary outputSummary : Option Path) :
    Step (RunState τ) Error Report := do
  let report ← match inputSummary with
    | some path => restoreFrom ctx path
    | none => resolveUnresolved ctx
  saveTo ctx outputSummary
  pure report

/-- Deal with a graph as the options say. -/
def resolveGraph (ctx : Context τ) (options : RunOptions) : Step (RunState τ) Error Report := do
  let report ← provision ctx options.inputSummary options.outputSummary
  judge options.stopOnFailure report

end RpmProvision.Resolution
