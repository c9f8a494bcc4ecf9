/-
Errors of a run.

An error has a kind, which names the stage that failed, and a detail. Errors of three kinds concern
one node of the graph; every other error ends the run.

* **`message`** — what is shown: the kind's lead and the detail.
-/

namespace RpmProvision

/-- The stage that failed. -/
inductive ErrorKind where
  | graphRead
  | graphWrite
  | graph
  | manifestRead
  | clonerSetup
  | providerLookup
  | fetch
  | competition
  | summaryRestore
  | summarySave
  | stopOnFailure
  | repositoryConversion
  | config
  | command
  | io
  | parse
  deriving DecidableEq

/-- The words that messages of a kind begin with. -/
def ErrorKind.lead : ErrorKind → String
  | .graphRead => "failed to read graph"
  | .graphWrite => "failed to write graph"
  | .graph => "graph error"
  | .manifestRead => "failed to read toolchain manifest"
  | .clonerSetup => "failed to set up package cloner"
  | .providerLookup => "failed to resolve requirement"
  | .fetch => "failed to fetch package"
  | .competition => "failed to resolve competing packages"
  | .summaryRestore => "failed to restore summary"
  | .summarySave => "failed to save summary"
  | .stopOnFailure => "failed to cache unresolved nodes"
  | .repositoryConversion => "failed to convert downloaded packages into a repository"
  | .config => "configuration error"
  | .command => "command failed"
  | .io => "I/O error"
  | .parse => "parse error"

/-- An error of a run. -/
structure Error where
  kind : ErrorKind
  detail : String
  deriving DecidableEq

namespace Error

/-- What is shown of an error. -/
def message (e : Error) : String := e.kind.lead ++ ": " ++ e.detail

/-- Whether the error ends the run; the others concern one node. -/
def isFatal (e : Error) : Bool :=
  match e.kind with
  | .providerLookup | .fetch | .competition => false
  | _ => true

/-- The error itself if it has the kind, else an error of that kind that quotes it. -/
def asKind (kind : ErrorKind) (e : Error) : Error :=
  if e.kind = kind then e else ⟨kind, e.message⟩

end Error

end RpmProvision
