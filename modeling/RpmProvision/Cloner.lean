/-
What a run asks of the outside.

A `Cloner` finds out which packages provide a requirement and gets them into the output directory.
An `Arbiter` tells which of several RPMs can be installed together. Both act on the world and on a
state of their own.

* **`Cloner.saveContents`**, **`Cloner.restoreContents`** — keep what a cloner got in a summary file,
  and hand it to a cloner again.
-/
import RpmProvision.Summary
import RpmProvision.Graph.Requirement

namespace RpmProvision

/-- A source of packages. -/
structure Cloner (τ : Type) where
  /-- The packages that provide a requirement, the best one first. -/
  whatProvides : Requirement → Step (Session τ) Error (List String)
  /-- Get a package, with what it depends on if asked to; the result tells whether it was there
  before as a pre-built RPM. -/
  clonePackage : Bool → String → Step (Session τ) Error Bool
  /-- Turn the output directory into a repository. -/
  convert : Step (Session τ) Error Unit
  /-- What has been got so far. -/
  contents : Session τ → Summary × Session τ
  /-- Take over what a summary tells. -/
  restore : Summary → Step (Session τ) Error Unit

/-- A judge of RPMs that compete for a requirement. -/
structure Arbiter (τ : Type) where
  /-- The RPMs that can be installed together. -/
  installable : List Path → Step (Session τ) Error (List Path)

/-- The RPM of a package in a directory. -/
def rpmPath (package : String) (dir : Path) : Path := dir.child (package ++ ".rpm")

namespace Cloner

variable {τ : Type}

/-- Save what has been got to a summary file. -/
def saveContents (c : Cloner τ) (path : Path) : Step (Session τ) Error Unit := do
  let summary ← fun s => (.ok (c.contents s).1, (c.contents s).2)
  summary.save path
  Session.log .info .summary
    s!"Saved summary of {summary.packages.size} cloned packages to {path.text}"

/-- Take over what a summary file tells. -/
def restoreContents (c : Cloner τ) (path : Path) : Step (Session τ) Error Unit := do
  let summary ← Summary.load path
  (c.restore summary).mapError (Error.asKind .summaryRestore)
  Session.log .info .summary
    s!"Restored {summary.packages.size} cloned packages from {path.text}"

end Cloner

end RpmProvision
