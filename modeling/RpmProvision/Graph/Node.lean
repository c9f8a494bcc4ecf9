/-
Nodes of a package build graph.
-/
import RpmProvision.Graph.Requirement
import RpmProvision.Disk.Path

namespace RpmProvision

/-- The number of a node in its graph. -/
abbrev NodeId := UInt64

/-- How far a node has come. -/
inductive NodeState where
  /-- An RPM from a repository is wanted. -/
  | unresolved
  /-- An RPM has been fetched. -/
  | cached
  /-- Nothing has to be waited for. -/
  | upToDate
  /-- The package has to be built. -/
  | build
  /-- There is nothing to build or to fetch. -/
  | bookkeeping
  deriving DecidableEq

/-- What a node stands for. -/
inductive NodeKind where
  | build
  | run
  | goal
  /-- A requirement met from a repository. -/
  | remote
  | pureMeta
  /-- A toolchain package that is there already. -/
  | preBuilt
  deriving DecidableEq

/-- How a state is shown. -/
def NodeState.toText : NodeState → String
  | .unresolved => "Unresolved"
  | .cached => "Cached"
  | .upToDate => "UpToDate"
  | .build => "Build"
  | .bookkeeping => "Meta"

/-- How a kind is shown. -/
def NodeKind.toText : NodeKind → String
  | .build => "BUILD"
  | .run => "RUN"
  | .goal => "GOAL"
  | .remote => "REMOTE"
  | .pureMeta => "PUREMETA"
  | .preBuilt => "PREBUILT"

/-- A node: a requirement, how far it has come, and the files known for it. -/
structure Node where
  id : NodeId
  requirement : Requirement
  state : NodeState
  kind : NodeKind
  /-- Something built during the run may meet the requirement later. -/
  implicit : Bool
  rpmPath : Option Path
  srpmPath : Option Path
  specPath : Option Path
  architecture : Option String
  sourceRepo : Option String
  deriving DecidableEq

namespace Node

/-- How a node is shown. -/
def toText (n : Node) : String :=
  n.requirement.toText ++ "-" ++ n.kind.toText ++ "<" ++ n.state.toText ++ ">"

/-- A short name for log messages. -/
def friendlyName (n : Node) : String := n.requirement.name ++ " (" ++ n.kind.toText ++ ")"

/-- The node with an RPM: one that nothing has to wait for if the RPM is a toolchain package that was
there before, and one that is cached otherwise. -/
def resolved (n : Node) (rpm : Path) (fromToolchain : Bool) : Node :=
  if fromToolchain then { n with state := .upToDate, kind := .preBuilt, rpmPath := some rpm }
  else { n with state := .cached, rpmPath := some rpm }

end Node

end RpmProvision
