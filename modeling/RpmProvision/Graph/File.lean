/-
Graph files.
-/
import RpmProvision.Graph.Document
import RpmProvision.World

namespace RpmProvision.Graph

/-- Read a graph file. -/
def load (path : Path) : Step World Error Graph := do
  World.log .debug .graphFile s!"Reading graph from {path.text}"
  let text ← (World.look fun d => d.readText path).mapError fun fault =>
    ⟨.graphRead, s!"{path.text}: {fault.message}"⟩
  Step.ofExcept ((parse text).mapError fun e => ⟨.graphRead, s!"{path.text}: {e.detail}"⟩)

/-- Write a graph file; a file that is there is replaced as a whole. -/
def save (g : Graph) (path : Path) : Step World Error Unit := do
  World.log .debug .graphFile s!"Writing graph to {path.text}"
  (World.replaceFile path (Text.Utf8.encode g.render)).mapError fun fault =>
    ⟨.graphWrite, s!"{path.text}: {fault.message}"⟩

end RpmProvision.Graph
