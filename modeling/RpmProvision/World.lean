/-
The world a run acts on.

A world is a disk, the log so far, the external programs called so far, and the scratch directories
in use. The log may be written to a file as well. External programs are a function of the calls made
before, of the call, and of the disk: it answers with the program's output and the disk it leaves,
or with `none` if there is no such program.

* **`spawn`** — every call of an existing program is recorded with the disk it saw;
* **`makeScratch`** — a scratch directory is new, so it is empty.
-/
import RpmProvision.Disk.Files
import RpmProvision.Disk.Directories
import RpmProvision.Error
import RpmProvision.Event

namespace RpmProvision

/-- A program and its arguments. -/
structure Invocation where
  program : String
  args : List String
  deriving DecidableEq

/-- How a program ended and what it printed. -/
structure Reply where
  exitCode : Nat
  out : Bytes
  err : Bytes

/-- Whether the program reported success. -/
def Reply.success (r : Reply) : Bool := r.exitCode == 0

/-- A call that was made, and the disk that the program saw. -/
structure Call where
  invocation : Invocation
  disk : Disk

/-- What the external programs do. -/
abbrev Tools := List Call → Invocation → Disk → Option (Reply × Disk)

/-- A file that the log is written to, line by line. -/
structure LogFile where
  location : Location
  /-- Where in the file the next line starts. -/
  position : Nat
  /-- What is written for an event. -/
  lineOf : Event → Bytes

/-- The disk, the log, the calls and the scratch directories of a run, and the file that the log is
written to if there is one. -/
structure World where
  disk : Disk
  events : List Event
  calls : List Call
  scratches : List Path
  logFile : Option LogFile

/-- An error of a run for a failed file operation that needs no further words. -/
def Error.ofIo (fault : IoFault) : Error := ⟨.io, fault.message⟩

namespace World

variable {ε α : Type}

/-- A world with a given disk, in which nothing has happened yet. -/
def start (disk : Disk) : World := ⟨disk, [], [], [], none⟩

/-- A step over the disk. -/
def onDisk (x : Step Disk ε α) : Step World ε α :=
  x.within World.disk fun disk w => { w with disk }

/-- A look at the disk. -/
def look (f : Disk → Except ε α) : Step World ε α := fun w => (f w.disk, w)

/-- A content with some octets written over it from a position on. -/
def overwrite (position : Nat) (octets content : Bytes) : Bytes :=
  content.take position ++ List.replicate (position - content.length) 0 ++ octets
    ++ content.drop (position + octets.length)

/-- Write octets to the file at a location, if there is one, from a position on. -/
def writeAt (l : Location) (position : Nat) (octets : Bytes) (d : Disk) : Disk :=
  match octets, d.entryAt l with
  | _ :: _, some (.file content) => d.put l (.file (overwrite position octets content))
  | _, _ => d

/-- Add an event to the log, and to the file that the log is written to. -/
def record (w : World) (e : Event) : World :=
  match w.logFile with
  | none => { w with events := w.events ++ [e] }
  | some f =>
    { w with
      events := w.events ++ [e]
      disk := writeAt f.location f.position (f.lineOf e) w.disk
      logFile := some { f with position := f.position + (f.lineOf e).length } }

/-- Recording an event adds it to the log. -/
@[simp] theorem events_record (w : World) (e : Event) :
    (w.record e).events = w.events ++ [e] := by
  unfold record
  split <;> rfl

/-- Without a file for the log, recording an event changes nothing else. -/
theorem record_of_logFile_eq_none {w : World} (h : w.logFile = none) (e : Event) :
    w.record e = { w with events := w.events ++ [e] } := by
  simp [record, h]

/-- Octets written where a content ends are added to it. -/
theorem overwrite_length (octets content : Bytes) :
    overwrite content.length octets content = content ++ octets := by
  simp [overwrite]

/-- Add an event to the log. -/
def log (level : Level) (source : Source) (message : String) : Step World ε Unit :=
  Step.modify fun w => w.record ⟨level, source, message⟩

/-- Replace a file by a new one. The log goes on in the old file, which has no name then. -/
def replaceFile (path : Path) (content : Bytes) : Step World IoFault Unit := fun w =>
  match Disk.replace path content w.disk with
  | (.ok l, disk) => (.ok (), { w with disk, logFile := w.logFile.filter (·.location ≠ l) })
  | (.error fault, disk) => (.error fault, { w with disk })

/-- Call an external program. -/
def spawn (tools : Tools) (program : String) (args : List String) : Step World IoFault Reply :=
  fun w =>
    if args.any fun arg => arg.toList.contains '\x00' then (.error .zeroInArgument, w)
    else
      match tools w.calls ⟨program, args⟩ w.disk with
      | none => (.error .notFound, w)
      | some (reply, disk) =>
        (.ok reply, { w with disk, calls := w.calls ++ [⟨⟨program, args⟩, w.disk⟩] })

/-! ### Scratch directories -/

/-- Where scratch directories go unless a directory is given. -/
def systemTemp : Path := ⟨"/tmp"⟩

/-- The name of the `k`-th scratch directory. -/
def scratchName (k : Nat) : String :=
  let digits := Nat.toDigits 10 k
  ".tmp" ++ String.ofList (List.replicate (6 - digits.length) '0' ++ digits)

/-- The path from the root that a path stands for. -/
def absolute (d : Disk) (p : Path) : Path := Path.join ⟨"/" ++ String.intercalate "/" d.workingDir⟩ p

/-- Make the first scratch directory from the `k`-th on whose name is free, within `tries`. -/
def makeFree (dir : Path) (k : Nat) : Nat → Step Disk IoFault Path
  | 0 => Step.fail .alreadyExists
  | tries + 1 => do
    match ← (Disk.makeDir (dir.child (scratchName k))).outcome with
    | .ok _ => pure (dir.child (scratchName k))
    | .error .alreadyExists => makeFree dir (k + 1) tries
    | .error fault => Step.fail fault

/-- Make a new scratch directory. -/
def makeScratch (dir : Path) : Step World IoFault Path := do
  let path ← onDisk fun d => makeFree (absolute d dir) 0 (d.entries.size + 1) d
  Step.modify fun w => { w with scratches := w.scratches ++ [path] }
  pure path

/-- Remove a scratch directory with all it holds. -/
def removeScratch (path : Path) : Step World ε Unit := fun w =>
  (.ok (), { w with
    disk := (Disk.remove path w.disk).2
    scratches := w.scratches.erase path })

/-- The world without its scratch directories. -/
def withoutScratches (w : World) : World :=
  { w with
    disk := w.scratches.foldl (fun d path => (Disk.remove path d).2) w.disk
    scratches := [] }

end World

/-- A world together with the private state of the collaborators that act on it. -/
structure Session (τ : Type) where
  world : World
  agent : τ

namespace Session

variable {τ ε α : Type}

/-- A step over the world alone. -/
def onWorld (x : Step World ε α) : Step (Session τ) ε α :=
  x.within Session.world fun world s => { s with world }

instance : MonadLift (Step World ε) (Step (Session τ) ε) := ⟨onWorld⟩

/-- Add an event to the log. -/
def log (level : Level) (source : Source) (message : String) : Step (Session τ) ε Unit :=
  onWorld (World.log level source message)

end Session

end RpmProvision
