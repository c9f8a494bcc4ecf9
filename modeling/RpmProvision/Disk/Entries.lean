/-
Putting entries in place and taking them away.

* **`add`** — puts an entry where nothing is; a link there counts as something;
* **`addName`** — gives a file a second name, which holds a copy. Files with two names are outside the
  model: no disk to start from has one, and what is written to a file under one of two names that an
  archive gives it is not seen under the other.
-/
import RpmProvision.Step
import RpmProvision.Disk.Basic

namespace RpmProvision.Disk

/-- Put a new entry at a path, and say what may be done with it. Its parent must exist, and nothing
may be there. -/
def addWith (a : Access) (p : Path) (e : Entry) : Step Disk IoFault Unit := fun d =>
  match d.resolveNames .entry p (p.pieces.filter (· ≠ "")) with
  | .ok (l, none) =>
    if d.mayChangeAround l then (.ok (), (d.put l e).permit l a) else (.error .denied, d)
  | .ok (_, some _) => (.error .alreadyExists, d)
  | .error fault => (.error fault, d)

/-- Put a new entry at a path, with which everything may be done. -/
def add (p : Path) (e : Entry) : Step Disk IoFault Unit := addWith .full p e

/-- Remove a file or a link. -/
def removeFile (p : Path) : Step Disk IoFault Unit := fun d =>
  match d.resolve .entry p with
  | .ok (_, some .directory) => (.error .isDirectory, d)
  | .ok (l, some _) =>
    if d.mayChangeAround l then (.ok (), d.removeTree l) else (.error .denied, d)
  | .ok (_, none) => (.error .notFound, d)
  | .error fault => (.error fault, d)

/-- Remove what a path leads to, with everything below it. A link is removed, not its target. -/
def remove (p : Path) : Step Disk IoFault Unit := fun d =>
  match d.resolve .entry p with
  | .ok (l, some _) => (.ok (), d.removeTree l)
  | .ok (_, none) => (.error .notFound, d)
  | .error fault => (.error fault, d)

/-- Say what may be done with what a path leads to. -/
def setAccess (p : Path) (a : Access) : Step Disk IoFault Unit := fun d =>
  match d.find p with
  | .ok (l, _) => (.ok (), d.permit l a)
  | .error fault => (.error fault, d)

/-- Give a file or a link a second name, at which nothing may be. -/
def addName (source target : Path) : Step Disk IoFault Unit := fun d =>
  match d.resolve .entry source with
  | .ok (_, some .directory) => (.error .notPermitted, d)
  | .ok (l, some e) => addWith (d.accessAt l) target e d
  | .ok (_, none) => (.error .notFound, d)
  | .error fault => (.error fault, d)

end RpmProvision.Disk
