/-
Reading, writing, copying and replacing files.

* **`write`** — opens the file for writing, which empties or creates it, and fills it;
* **`copy`** — opens the source, empties the target, and only then takes over what the source
  holds: a file copied onto itself ends up empty;
* **`replace`** — writes a new file beside the target and renames it, so that the target is never
  half written; a link at the target is replaced, not followed.
-/
import RpmProvision.Step
import RpmProvision.Disk.Basic

namespace RpmProvision.Disk

/-- The file that a path leads to, opened for reading: its location and its octets. A directory can
be opened as well, but has no octets. -/
def openFile (d : Disk) (p : Path) : Except IoFault (Location × Option Bytes) :=
  match d.find p with
  | .ok (l, .file content) =>
    if (d.accessAt l).read then .ok (l, some content) else .error .denied
  | .ok (l, _) => if (d.accessAt l).read then .ok (l, none) else .error .denied
  | .error fault => .error fault

/-- The octets of the file that a path leads to. -/
def read (d : Disk) (p : Path) : Except IoFault Bytes :=
  match d.openFile p with
  | .ok (_, some content) => .ok content
  | .ok (_, none) => .error .isDirectory
  | .error fault => .error fault

/-- The text of the file that a path leads to. -/
def readText (d : Disk) (p : Path) : Except IoFault String :=
  match d.read p with
  | .ok content =>
    match Text.Utf8.decode? content with
    | some s => .ok s
    | none => .error .notText
  | .error fault => .error fault

/-- Where a file opened for writing is. -/
def writable (d : Disk) (p : Path) : Except IoFault Location :=
  match d.resolve .output p with
  | .ok (_, some .directory) => .error .isDirectory
  | .ok (l, some _) => if (d.accessAt l).write then .ok l else .error .denied
  | .ok (l, none) => if d.mayChangeAround l then .ok l else .error .denied
  | .error fault => .error fault

/-- Open a file for writing: it is empty then. -/
def create (p : Path) : Step Disk IoFault Location := fun d =>
  match d.writable p with
  | .ok l => (.ok l, d.put l (.file []))
  | .error fault => (.error fault, d)

/-- Write a file. -/
def write (p : Path) (content : Bytes) : Step Disk IoFault Unit := do
  let l ← create p
  Step.modify fun d => d.put l (.file content)

/-- Take over into one file what another holds, and what may be done with it. -/
def copyContent (source target : Location) (d : Disk) : Disk :=
  match d.entryAt source with
  | some (.file content) => (d.put target (.file content)).permit target (d.accessAt source)
  | _ => d

/-- Copy a file. -/
def copy (source target : Path) : Step Disk IoFault Unit := do
  match ← Step.asks fun d => d.openFile source with
  | .ok (origin, some _) => do
    let destination ← create target
    Step.modify (copyContent origin destination)
  | .ok (_, none) => Step.fail .notRegular
  | .error fault => Step.fail fault

/-- Where a file renamed to the path ends up. -/
def renameTarget (d : Disk) (p : Path) : Except IoFault Location :=
  match d.resolveNames .entry p (p.pieces.filter (· ≠ "")) with
  | .error .zeroInPath => .error .invalidArgument
  | .error fault => .error fault
  | .ok (l, e) =>
    match (p.pieces.filter (· ≠ "")).getLast? with
    | none => .error .busy
    | some last =>
      if last = "." ∨ last = ".." then .error .busy
      else if p.endsInSlash then .error .notDirectory
      else if e = some .directory then .error .isDirectory
      else .ok l

/-- The directory that a new file beside the path is put into. -/
def besideDir (p : Path) : Path :=
  match p.parent? with
  | some dir => if dir.text = "" then ⟨"."⟩ else dir
  | none => ⟨"."⟩

/-- A name for a new file beside another one. -/
def besideName : String := ".tmpbeside"

/-- Replace the file at a path by a new one; the result is where that is. -/
def replace (p : Path) (content : Bytes) : Step Disk IoFault Location := fun d =>
  match d.writable ((besideDir p).child besideName) with
  | .error fault => (.error fault, d)
  | .ok _ =>
    match d.renameTarget p with
    | .error fault => (.error fault, d)
    | .ok l => (.ok l, d.renew l (.file content))

end RpmProvision.Disk
