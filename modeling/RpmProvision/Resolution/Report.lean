/-
What a run did with the nodes.
-/
import RpmProvision.Graph.Node

namespace RpmProvision.Resolution

/-- What became of a node. -/
inductive Outcome where
  /-- The node has an RPM now. -/
  | resolved (node : NodeId) (rpmPath : Path) (state : NodeState)
  /-- Nothing provides the requirement yet, and something built later may. -/
  | softFailure (node : NodeId) (reason : String)
  /-- The node has no RPM. -/
  | hardFailure (node : NodeId) (reason : String)
  deriving DecidableEq

namespace Outcome

/-- The node that the outcome is about. -/
def node : Outcome → NodeId
  | .resolved node _ _ => node
  | .softFailure node _ => node
  | .hardFailure node _ => node

/-- Whether the node has an RPM now. -/
def isResolved : Outcome → Bool
  | .resolved .. => true
  | _ => false

/-- Whether something built later may provide the requirement. -/
def isSoft : Outcome → Bool
  | .softFailure .. => true
  | _ => false

/-- Whether the node failed for good. -/
def isHard : Outcome → Bool
  | .hardFailure .. => true
  | _ => false

end Outcome

/-- The outcomes of a run in order, or the note that packages were taken over from a summary. -/
structure Report where
  outcomes : List Outcome
  restored : Bool
  deriving DecidableEq

namespace Report

/-- The report of a run that has dealt with no node yet. -/
def empty : Report := ⟨[], false⟩

/-- The report of a run that took packages over from a summary. -/
def ofRestore : Report := ⟨[], true⟩

/-- Add an outcome. -/
def push (r : Report) (o : Outcome) : Report := { r with outcomes := r.outcomes ++ [o] }

/-- The number of nodes that have an RPM now. -/
def resolvedCount (r : Report) : Nat := r.outcomes.countP Outcome.isResolved

/-- The number of soft failures. -/
def softCount (r : Report) : Nat := r.outcomes.countP Outcome.isSoft

/-- The outcomes that are failures for good. -/
def hardFailures (r : Report) : List Outcome := r.outcomes.filter Outcome.isHard

/-- Whether there is a failure for good. -/
def hasHardFailures (r : Report) : Bool := r.outcomes.any Outcome.isHard

theorem hasHardFailures_iff (r : Report) : r.hasHardFailures ↔ r.hardFailures ≠ [] := by
  simp [hasHardFailures, hardFailures]

end Report

end RpmProvision.Resolution
