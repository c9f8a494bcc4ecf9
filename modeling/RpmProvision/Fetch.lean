/-
A whole run on files.

The graph is read, its nodes are resolved, the graph is written, and the packages become a
repository. A cloner is made only if a node wants an RPM.

* **`fetchPackages`** — such a run; without a node that wants an RPM there is no report.
-/
import RpmProvision.Config
import RpmProvision.Graph.File
import RpmProvision.Resolution.Run

namespace RpmProvision

open Resolution

variable {τ : Type}

/-- Let the remote nodes of a graph take their slots, and log how that went. -/
def mergeRemotes (g : Graph) : Step World Error (Nat × Graph) := fun w =>
  match Graph.mergeRemotes ⟨g, []⟩ with
  | (r, edited) =>
    ((r.mapError GraphFault.toError).map (·, edited.graph),
      edited.events.foldl World.record w)

/-- The options of the run that a configuration describes. -/
def FetchConfig.runOptions (c : FetchConfig) : RunOptions :=
  ⟨c.inputSummary, c.outputSummary, c.stopOnFailure⟩

/-- What a run starts from: the graph with its remote nodes in their slots, and the manifest. -/
def readInputs (config : FetchConfig) : Step World Error (Graph × Manifest) := do
  let g ← Graph.load config.inputGraph
  let manifest ← Manifest.load config.manifest
  let (merged, g) ← mergeRemotes g
  World.log .debug .run s!"Added {merged} remote nodes to the lookup table"
  let stats := g.stats
  World.log .info .run
    (s!"Graph has {stats.nodes} nodes, {stats.edges} edges, {stats.runNodes} run nodes "
      ++ s!"({stats.unresolved} unresolved)")
  pure (g, manifest)

/-- Resolve a graph; the result is the report and the graph as it is then. -/
def resolveWith (ctx : Context τ) (options : RunOptions) (g : Graph) :
    Step (Session τ) Error (Report × Graph) := fun s =>
  match resolveGraph ctx options ⟨g, s, .empty⟩ with
  | (r, state) => (r.map (·, state.graph), state.progress.session)

/-- Resolve a graph with a cloner, write it, and turn the packages into a repository. -/
def fetchWith (config : FetchConfig) (arbiter : Arbiter τ) (g : Graph) (manifest : Manifest)
    (cloner : Cloner τ) : Step (Session τ) Error Report := do
  let ctx : Context τ :=
    { cloner, arbiter, manifest, outDir := config.cloner.outDir, cloneDeps := config.cloneDeps }
  let (report, resolved) ← resolveWith ctx config.runOptions g
  resolved.save config.outputGraph
  Session.log .info .run
    (s!"Wrote resolved graph to {config.outputGraph.text} "
      ++ s!"({resolved.stats.unresolved} run nodes still unresolved)")
  cloner.convert.mapError (Error.asKind .repositoryConversion)
  pure report

/-- Run. -/
def fetchPackages (config : FetchConfig) (arbiter : Arbiter τ)
    (makeCloner : ClonerConfig → Step (Session τ) Error (Cloner τ)) :
    Step (Session τ) Error (Option Report) := do
  let (g, manifest) ← readInputs config
  if g.stats.unresolved = 0 then do
    Session.log .info .run "No unresolved packages to cache"
    g.save config.outputGraph
    pure none
  else do
    Session.log .info .run "Found unresolved packages to cache, downloading packages"
    let cloner ← (makeCloner config.cloner).mapError (Error.asKind .clonerSetup)
    let report ← fetchWith config arbiter g manifest cloner
    pure (some report)

end RpmProvision
