/-
Package build graphs.

An edge from `a` to `b` says that `a` needs `b`. Besides nodes and edges a graph holds one slot for
each requirement that something provides at run time: a run node takes its slot when it is added, a
remote node when remote nodes are merged.

* **`insertNode`**, **`insertEdge`** — put nodes and edges into a graph, and refuse what would break it;
* **`addNode`**, **`addEdge`** — the graph with one more node or edge;
* **`mergeRemotes`** — afterwards the remote nodes hold the slots of their requirements.
-/
import RpmProvision.Step
import RpmProvision.Event
import RpmProvision.Error
import RpmProvision.Graph.Node

namespace RpmProvision

/-- A package build graph. -/
structure Graph where
  nodes : SortedMap NodeId Node
  /-- For each node the nodes that it needs. -/
  needs : SortedMap NodeId (SortedSet NodeId)
  /-- For each node the nodes that need it. -/
  neededBy : SortedMap NodeId (SortedSet NodeId)
  /-- For each requirement the node that meets it at run time. -/
  slots : SortedMap Requirement NodeId
  deriving DecidableEq

/-- Why a graph refused a change. -/
inductive GraphFault where
  | duplicateNode (id : NodeId)
  | slotTaken (requirement : Requirement) (occupant : NodeId)
  | unknownEndpoint (source target missing : NodeId)
  | unknownNode (id : NodeId)
  | notRemote (node : Node)
  | notUnresolved (node : Node)

namespace GraphFault

/-- The text of a refusal. -/
def message : GraphFault → String
  | .duplicateNode id => s!"duplicate node id {id}"
  | .slotTaken requirement occupant =>
    s!"'{requirement.toText}' already has a run node ({occupant})"
  | .unknownEndpoint source target missing =>
    s!"edge {source} -> {target} names unknown node {missing}"
  | .unknownNode id => s!"unknown node {id}"
  | .notRemote node => s!"{node.toText} is not a remote node"
  | .notUnresolved node => s!"{node.toText} is not unresolved"

/-- The error of a run for a refusal. -/
def toError (fault : GraphFault) : Error := ⟨.graph, fault.message⟩

end GraphFault

namespace Graph

/-- The graph without nodes. -/
def empty : Graph := ⟨∅, ∅, ∅, ∅⟩

/-- Insist that the number of a node is new. -/
def requireNew (n : Node) : Step Graph GraphFault Unit := do
  if ← Step.asks fun g => g.nodes.contains n.id then Step.fail (.duplicateNode n.id) else pure ()

/-- Take the slot of a run node's requirement, which must be free. Other nodes need none. -/
def takeRunSlot (n : Node) : Step Graph GraphFault Unit :=
  if n.kind = .run then do
    match ← Step.asks fun g => g.slots.find? n.requirement with
    | some occupant => Step.fail (.slotTaken n.requirement occupant)
    | none => Step.modify fun g => { g with slots := g.slots.insert n.requirement n.id }
  else pure ()

/-- Put a new node into the graph, and first a run node into the slot of its requirement. -/
def insertNode (n : Node) : Step Graph GraphFault Unit := do
  requireNew n
  takeRunSlot n
  Step.modify fun g => { g with nodes := g.nodes.insert n.id n }

/-- The graph with one more node. -/
def addNode (g : Graph) (n : Node) : Except GraphFault Graph := (insertNode n).endOf g

/-- Add one more element to the set under a key. -/
def addUnder (m : SortedMap NodeId (SortedSet NodeId)) (k x : NodeId) :
    SortedMap NodeId (SortedSet NodeId) :=
  m.insert k (((m.find? k).getD ∅).insert x ())

/-- Insist that the end `id` of an edge is there. -/
def requireEnd (source target id : NodeId) : Step Graph GraphFault Unit := do
  if ← Step.asks fun g => g.nodes.contains id then pure ()
  else Step.fail (.unknownEndpoint source target id)

/-- Put an edge that says that `source` needs `target` into both families of edges. -/
def insertEdge (source target : NodeId) : Step Graph GraphFault Unit := do
  requireEnd source target source
  requireEnd source target target
  Step.modify fun g => { g with needs := addUnder g.needs source target }
  Step.modify fun g => { g with neededBy := addUnder g.neededBy target source }

/-- The graph with one more edge. -/
def addEdge (g : Graph) (source target : NodeId) : Except GraphFault Graph :=
  (insertEdge source target).endOf g

/-- The node with a number. -/
def node? (g : Graph) (id : NodeId) : Option Node := g.nodes.find? id

/-- Put another node in the place of the one with number `id`. -/
def setNode (g : Graph) (id : NodeId) (n : Node) : Graph :=
  { g with nodes := g.nodes.insert id n }

/-- Put the node with number `id` back after it was worked on. -/
def putBack (g : Graph) (id : NodeId) (before after : Node) : Graph :=
  if after = before then g else g.setNode id after

theorem putBack_self (g : Graph) (id : NodeId) (n : Node) : g.putBack id n n = g := if_pos rfl

theorem putBack_of_ne (g : Graph) (id : NodeId) {n n' : Node} (h : n' ≠ n) :
    g.putBack id n n' = g.setNode id n' := if_neg h

/-- The edges in order, from the node that needs to the node that is needed. -/
def edges (g : Graph) : List (NodeId × NodeId) :=
  g.needs.entries.flatMap fun p => p.2.keys.map (p.1, ·)

/-- The nodes that need the node with number `id`. -/
def dependents (g : Graph) (id : NodeId) : List Node :=
  ((g.neededBy.find? id).getD ∅).keys.filterMap g.node?

/-! ### Slots -/

/-- A graph that is being edited, and the events of the edits. -/
structure Editing where
  graph : Graph
  events : List Event

/-- Give the slot of a remote node's requirement to the node. A slot that another node holds is
refused, or taken over if `replacing` is set. -/
def takeSlot (id : NodeId) (replacing : Bool) : Step Editing GraphFault Unit := fun e =>
  match e.graph.node? id with
  | none => (.error (.unknownNode id), e)
  | some n =>
    if n.kind ≠ .remote then (.error (.notRemote n), e)
    else
      let taken := { e.graph with slots := e.graph.slots.insert n.requirement id }
      match e.graph.slots.find? n.requirement with
      | none => (.ok (), { e with graph := taken })
      | some occupant =>
        if occupant = id then (.ok (), e)
        else if !replacing then (.error (.slotTaken n.requirement occupant), e)
        else
          (.ok (), ⟨taken, e.events ++ [⟨.debug, .graph,
            s!"Replacing run node {occupant} with remote node {id} for '{n.requirement.toText}'"⟩]⟩)

/-- Give several remote nodes the slots of their requirements, one after another. -/
def takeSlots : List NodeId → Step Editing GraphFault Unit
  | [] => pure ()
  | id :: rest => do
    takeSlot id true
    takeSlots rest

/-- The numbers of the remote nodes. -/
def remotes (g : Graph) : List NodeId :=
  (g.nodes.values.filter fun n => n.kind = .remote).map Node.id

/-- Give every remote node the slot of its requirement; the result is the number of remote nodes. -/
def mergeRemotes : Step Editing GraphFault Nat := do
  let ids ← Step.asks fun e => e.graph.remotes
  takeSlots ids
  pure ids.length

/-- The numbers of the nodes that hold a slot. -/
def runNodes (g : Graph) : List NodeId :=
  (SortedMap.ofList (g.slots.values.map (·, ())) : SortedSet NodeId).keys

/-- Whether the node with number `id` wants an RPM. -/
def isUnresolved (g : Graph) (id : NodeId) : Bool :=
  match g.node? id with
  | some n => n.state = .unresolved
  | none => false

/-- The numbers of the nodes that hold a slot and want an RPM. -/
def unresolvedRunNodes (g : Graph) : List NodeId := g.runNodes.filter g.isUnresolved

/-- The size of a graph. -/
structure Stats where
  nodes : Nat
  edges : Nat
  runNodes : Nat
  unresolved : Nat
  deriving DecidableEq

/-- The size of the graph. -/
def stats (g : Graph) : Stats where
  nodes := g.nodes.size
  edges := g.edges.length
  runNodes := g.slots.size
  unresolved := g.unresolvedRunNodes.length

end Graph

end RpmProvision
