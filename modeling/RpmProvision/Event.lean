/-
Log events.

An event has a level, the part of the program it comes from, and a message.
-/

namespace RpmProvision

/-- How much an event matters. -/
inductive Level where
  | error
  | warn
  | info
  | debug
  deriving DecidableEq

/-- The name of a level in a log. -/
def Level.label : Level → String
  | .error => "ERROR"
  | .warn => "WARN"
  | .info => "INFO"
  | .debug => "DEBUG"

/-- The part of the program that an event comes from. -/
inductive Source where
  | program
  | graph
  | graphFile
  | manifest
  | worker
  | cloner
  | selection
  | node
  | run
  | summary
  deriving DecidableEq

/-- The name of a part in a log, and in a log filter. -/
def Source.label : Source → String
  | .program => "pkgfetch"
  | .graph => "pkgfetch::graph"
  | .graphFile => "pkgfetch::graph::file"
  | .manifest => "pkgfetch::toolchain"
  | .worker => "pkgfetch::fetcher::worker"
  | .cloner => "pkgfetch::fetcher::tdnf"
  | .selection => "pkgfetch::resolver::conflict"
  | .node => "pkgfetch::resolver::engine"
  | .run => "pkgfetch::resolver"
  | .summary => "pkgfetch::summary"

/-- A log event. -/
structure Event where
  level : Level
  source : Source
  message : String
  deriving DecidableEq

end RpmProvision
