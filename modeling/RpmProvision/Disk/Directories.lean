/-
Making and listing directories.

* **`makeDirWithParents`** — makes a directory and all that is missing on the way to it;
* **`tree`** — what a walk below a directory meets.
-/
import RpmProvision.Disk.Entries

namespace RpmProvision.Disk

/-- Make one directory. -/
def makeDir (p : Path) : Step Disk IoFault Unit := add p .directory

/-- Accept a failure to make a directory that is there already. -/
def unlessThere (p : Path) (fault : IoFault) : Step Disk IoFault Unit := fun d =>
  (if d.isDirectory p then .ok () else .error fault, d)

/-- Make the first path of a list, after the rest of the list if the way to it is missing. -/
def makeDirs : List Path → Step Disk IoFault Unit
  | [] => Step.fail .notFound
  | p :: above =>
    if p.text = "" then pure ()
    else do
      match ← (makeDir p).outcome with
      | .ok _ => pure ()
      | .error .notFound => do
        makeDirs above
        match ← (makeDir p).outcome with
        | .ok _ => pure ()
        | .error fault => unlessThere p fault
      | .error fault => unlessThere p fault

/-- Make a directory and the directories above it, as far as they are missing. -/
def makeDirWithParents (p : Path) : Step Disk IoFault Unit :=
  makeDirs (p.ancestors p.text.length)

/-- Whether the directory at a location can be listed under a path that leads there. -/
def mayList (d : Disk) (p : Path) (l : Location) : Bool :=
  (pathFault? p).isNone && (d.accessAt l).read

/-- Whether a walk from a directory meets what the names lead to: it lists every directory on the
way, each under the path that it has come by, and follows names in all of them but the last. -/
def meets (d : Disk) (p : Path) (l : Location) : List String → Bool
  | [] => true
  | [_] => d.mayList p l
  | name :: rest =>
    d.mayList p l && (d.accessAt l).search && d.meets (p.child name) (l ++ [name]) rest

/-- What a walk below the directory that a path leads to meets; nothing is below a file. Links are
not followed. -/
def tree (d : Disk) (p : Path) : Except IoFault (List (List String × Entry)) :=
  match d.find p with
  | .ok (l, .directory) => .ok ((d.below l).filter fun e => d.meets p l e.1)
  | .ok _ => .ok []
  | .error fault => .error fault

/-- What stands directly in the directory that a path leads to. -/
def list (d : Disk) (p : Path) : Except IoFault (List (String × Entry)) :=
  match d.find p with
  | .ok (l, .directory) =>
    if (d.accessAt l).read then .ok (d.children l) else .error .denied
  | .ok _ => .ok []
  | .error fault => .error fault

end RpmProvision.Disk
