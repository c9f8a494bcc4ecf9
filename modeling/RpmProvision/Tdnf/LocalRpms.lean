/-
RPM files on the disk by the packages they hold.

The file of a package is its name with the extension `rpm`. Only files count, no links and no
directories, whatever their names are.

* **`index`** — the RPMs anywhere below some directories; of two for one package the first counts;
* **`scan`** — the packages whose RPMs are directly in a directory.
-/
import RpmProvision.World

namespace RpmProvision.Tdnf

/-- The package that a file holds. -/
def packageOf? (path : Path) : Option String :=
  if path.extension? = some "rpm" then path.stem? else none

/-- The package and the RPM at a path below a directory. -/
def rpmAt? (dir : Path) : List String × Entry → Option (String × Path)
  | (names, .file _) =>
    let path := names.foldl Path.child dir
    (packageOf? path).map (·, path)
  | _ => none

/-- The RPMs below a directory with their packages. -/
def rpmsBelow (d : Disk) (dir : Path) : List (String × Path) :=
  match d.tree dir with
  | .ok entries => entries.filterMap (rpmAt? dir)
  | .error _ => []

/-- RPMs by package, the first one of each. -/
def firstOfEach (rpms : List (String × Path)) : SortedMap String Path :=
  rpms.foldl (fun m p => if m.contains p.1 then m else m.insert p.1 p.2) ∅

/-- The RPMs below some directories by package. -/
def index (d : Disk) (dirs : List Path) : SortedMap String Path :=
  firstOfEach (dirs.flatMap (rpmsBelow d))

/-- The packages whose RPMs are directly in a directory. -/
def scan (dir : Path) (d : Disk) : Except Error (SortedSet String) :=
  match d.list dir with
  | .ok entries =>
    .ok (SortedMap.ofList ((entries.filterMap fun e => rpmAt? dir ([e.1], e.2)).map
      fun p => (p.1, ())))
  | .error fault => .error ⟨.io, s!"IO error for operation on {dir.text}: {fault.message}"⟩

end RpmProvision.Tdnf
