/-
The written form of a graph.

A graph is written as an object with its nodes in the order of their numbers and its edges in order.
Slots are not written: run nodes take theirs again when the graph is read.

* **`render`** — the text of a graph;
* **`parse`** — the graph of a text: every node is added, then every edge.
-/
import RpmProvision.Graph.Basic
import RpmProvision.Json.Strict
import RpmProvision.Json.Printer
import RpmProvision.Json.Fields

namespace RpmProvision

/-- The document of a number of 64 bits. -/
def Json.ofWord64 (n : UInt64) : Json := .natural n.toNat

/-- A member that is left out if its value is absent. -/
def Json.memberIfPresent {α : Type} (name : String) (write : α → Json) (value : Option α) :
    List (String × Json) :=
  match value with
  | some a => [(name, write a)]
  | none => []

/-- The document of a path is its text. -/
def Path.toJson (p : Path) : Json := .ofText p.text

/-- The path of a document. -/
def Path.ofJson? (v : Json) : Option Path := v.text?.map Path.mk

namespace Requirement

/-- The document of a requirement. -/
def toJson (r : Requirement) : Json :=
  .record ([("name", .ofText r.name)]
    ++ Json.memberIfPresent "condition" Json.ofText r.condition
    ++ Json.memberIfPresent "version" Json.ofText r.version)

/-- The requirement of a document. -/
def ofJson? (v : Json) : Option Requirement := do
  match ← v.fields? ["name", "condition", "version"] with
  | [name, condition, version] =>
    let name ← Json.required? Json.text? name
    let condition ← Json.optional? Json.text? condition
    let version ← Json.optional? Json.text? version
    some ⟨name, condition, version⟩
  | _ => none

end Requirement

/-- The name of a state in documents. -/
def NodeState.name : NodeState → String
  | .unresolved => "unresolved"
  | .cached => "cached"
  | .upToDate => "up_to_date"
  | .build => "build"
  | .bookkeeping => "meta"

/-- The state with a name. -/
def NodeState.ofName? (name : String) : Option NodeState :=
  [NodeState.unresolved, .cached, .upToDate, .build, .bookkeeping].find? (·.name = name)

/-- The name of a kind in documents. -/
def NodeKind.name : NodeKind → String
  | .build => "build"
  | .run => "run"
  | .goal => "goal"
  | .remote => "remote"
  | .pureMeta => "pure_meta"
  | .preBuilt => "pre_built"

/-- The kind with a name. -/
def NodeKind.ofName? (name : String) : Option NodeKind :=
  [NodeKind.build, .run, .goal, .remote, .pureMeta, .preBuilt].find? (·.name = name)

namespace Node

/-- The document of a node. -/
def toJson (n : Node) : Json :=
  .record ([("id", Json.ofWord64 n.id), ("pkg", n.requirement.toJson),
      ("state", .ofText n.state.name), ("type", .ofText n.kind.name),
      ("implicit", .bool n.implicit)]
    ++ Json.memberIfPresent "rpm_path" Path.toJson n.rpmPath
    ++ Json.memberIfPresent "srpm_path" Path.toJson n.srpmPath
    ++ Json.memberIfPresent "spec_path" Path.toJson n.specPath
    ++ Json.memberIfPresent "architecture" Json.ofText n.architecture
    ++ Json.memberIfPresent "source_repo" Json.ofText n.sourceRepo)

/-- The names of a node's fields in their order. -/
def fieldNames : List String :=
  ["id", "pkg", "state", "type", "implicit", "rpm_path", "srpm_path", "spec_path",
    "architecture", "source_repo"]

/-- The node of a document. -/
def ofJson? (v : Json) : Option Node := do
  match ← v.fields? fieldNames with
  | [id, requirement, state, kind, implicit, rpm, srpm, spec, architecture, source] =>
    let id ← Json.required? Json.word64? id
    let requirement ← Json.required? Requirement.ofJson? requirement
    let state ← Json.required? (fun v => v.variant?.bind NodeState.ofName?) state
    let kind ← Json.required? (fun v => v.variant?.bind NodeKind.ofName?) kind
    let implicit ← Json.defaulted? false Json.bool? implicit
    let rpmPath ← Json.optional? Path.ofJson? rpm
    let srpmPath ← Json.optional? Path.ofJson? srpm
    let specPath ← Json.optional? Path.ofJson? spec
    let architecture ← Json.optional? Json.text? architecture
    let sourceRepo ← Json.optional? Json.text? source
    some { id, requirement, state, kind, implicit, rpmPath, srpmPath, specPath, architecture,
           sourceRepo }
  | _ => none

end Node

namespace Graph

/-- The document of an edge. -/
def edgeToJson (e : NodeId × NodeId) : Json := .array [Json.ofWord64 e.1, Json.ofWord64 e.2]

/-- The edge of a document. -/
def edgeOfJson? : Json → Option (NodeId × NodeId)
  | .array [source, target] => do
    let source ← source.word64?
    let target ← target.word64?
    some (source, target)
  | _ => none

/-- The document of a graph. -/
def toJson (g : Graph) : Json :=
  .record [("nodes", .array (g.nodes.values.map Node.toJson)),
    ("edges", .array (g.edges.map edgeToJson))]

/-- The nodes and edges of a document. -/
def listsOfJson? (v : Json) : Option (List Node × List (NodeId × NodeId)) := do
  match ← v.fields? ["nodes", "edges"] with
  | [nodes, edges] =>
    let nodes ← Json.required? (Json.list? Node.ofJson?) nodes
    let edges ← Json.defaulted? [] (Json.list? edgeOfJson?) edges
    some (nodes, edges)
  | _ => none

/-- The graph of a list of nodes and a list of edges. -/
def build (nodes : List Node) (edges : List (NodeId × NodeId)) : Except GraphFault Graph := do
  let g ← nodes.foldlM addNode empty
  edges.foldlM (fun g e => g.addEdge e.1 e.2) g

/-- The text of a graph. -/
def render (g : Graph) : String := g.toJson.indented ++ "\n"

/-- The graph of a text. -/
def parse (text : String) : Except Error Graph :=
  match (Json.read? text).bind listsOfJson? with
  | none => .error ⟨.graphRead, Json.malformed⟩
  | some (nodes, edges) =>
    match build nodes edges with
    | .ok g => .ok g
    | .error fault => .error ⟨.graphRead, fault.toError.message⟩

end Graph

end RpmProvision
