/-
Unpacking a worker archive.

The members of the archive are put below a directory. What is there already is kept, unless a member
takes its place. Members whose name goes upwards are passed over, and nothing is put outside the
directory by way of a link. Directories come last, in the order opposite to that of their names,
because their modes might keep other members out; a file makes the directories on its way itself.

* **`unpackInto`** — put the members of an archive below a directory;
* **`extract`** — the same for an archive file; what was put in place before a failure stays.
-/
import RpmProvision.Archive.Tar
import RpmProvision.World

namespace RpmProvision.Archive.Worker

/-- Why an archive could not be unpacked. -/
inductive Fault where
  | damaged
  | outside
  | emptyLink
  | io (fault : IoFault)

/-- The text of a failure. -/
def Fault.message : Fault → String
  | .damaged => "damaged archive"
  | .outside => "member outside of the destination"
  | .emptyLink => "link without a target"
  | .io fault => fault.message

/-- The names that lead to a member from the directory, unless its name goes upwards. -/
def namesOf (m : Tar.Member) : Option (List String) :=
  let components := (Path.mk m.name).components
  if components.contains .up then none
  else
    some (components.filterMap fun
      | .name n => some n
      | _ => none)

/-- Insist that a path leads to a place in a directory or below it. -/
def checkInside (dest p : Path) : Step Disk Fault Unit := fun d =>
  (match d.find dest, d.find p with
    | .ok (top, _), .ok (l, _) => if top.isPrefixOf l then .ok () else .error .outside
    | .error fault, _ => .error (.io fault)
    | _, .error fault => .error (.io fault), d)

/-- Make the directories that some names lead to below a path inside a directory. A link on the way
counts as a directory that is there. -/
def makeWay (dest p : Path) : List String → Step Disk Fault Unit
  | [] => pure ()
  | name :: rest => do
    match ← Step.asks fun d => d.resolve .entry (p.child name) with
    | .ok (_, some _) => pure ()
    | _ => do
      checkInside dest p
      (Disk.makeDirWithParents (p.child name)).mapError .io
    makeWay dest (p.child name) rest

/-- Put an entry at a path, in the place of a file or link that is there. -/
def place (p : Path) (e : Entry) : Step Disk IoFault Unit := do
  match ← (Disk.add p e).outcome with
  | .ok _ => pure ()
  | .error .alreadyExists => do
    Disk.removeFile p
    Disk.add p e
  | .error fault => Step.fail fault

/-- Make a directory unless it is there. -/
def placeDirectory (p : Path) : Step Disk IoFault Unit := do
  match ← (Disk.makeDir p).outcome with
  | .ok _ => pure ()
  | .error .alreadyExists => do
    match ← Step.asks fun d => d.resolve .entry p with
    | .ok (_, some .directory) => pure ()
    | _ => Step.fail .alreadyExists
  | .error fault => Step.fail fault

/-- Put a link at a path. -/
def placeLink (p target : Path) : Step Disk IoFault Unit :=
  match Disk.pathFault? target with
  | some fault => Step.fail fault
  | none => place p (.link target)

/-- Let the mode of a member decide what may be done with what is at a path. -/
def applyMode (p : Path) (m : Tar.Member) : Step Disk Fault Unit :=
  match m.mode with
  | some mode => (Disk.setAccess p (.ofMode mode)).mapError .io
  | none => pure ()

/-- Put the content of a member at a path. -/
def placeMember (dest p : Path) (m : Tar.Member) : Step Disk Fault Unit :=
  match m.content with
  | .directory _ => do
    (placeDirectory p).mapError .io
    applyMode p m
  | .file content isWhole => do
    (place p (.file content)).mapError .io
    if isWhole then applyMode p m else Step.fail .damaged
  | .link target =>
    if target = "" then Step.fail .emptyLink else (placeLink p ⟨target⟩).mapError .io
  | .hardLink target =>
    if target = "" then Step.fail .emptyLink
    else do
      checkInside dest (dest.child target)
      (Disk.addName (dest.child target) p).mapError .io
  | .note => pure ()

/-- Put a member below a directory. -/
def unpackMember (dest : Path) (m : Tar.Member) : Step Disk Fault Unit :=
  match namesOf m with
  | none => pure ()
  | some [] => pure ()
  | some (first :: more) => do
    let way := (first :: more).dropLast
    makeWay dest dest way
    checkInside dest (way.foldl Path.child dest)
    placeMember dest ((first :: more).foldl Path.child dest) m

/-- Whether a member has to wait for the others. -/
def isLate (m : Tar.Member) : Bool := m.content == .directory true

/-- The members that have to wait, by their names; what comes last in this order comes first. -/
def lateMembers (archive : Tar.Listing) : List Tar.Member :=
  (archive.members.filter isLate).mergeSort fun m n => decide (n.name ≤ m.name)

/-- Put the members of an archive below a directory. -/
def unpackInto (dest : Path) (archive : Tar.Listing) : Step Disk Fault Unit := do
  (archive.members.filter (!isLate ·)).forM (unpackMember dest)
  if archive.isSound then pure () else Step.fail .damaged
  (lateMembers archive).forM (unpackMember dest)

/-- The octets of an archive file; a directory can be opened, but holds none. -/
def open? (d : Disk) (archive : Path) : Except IoFault Gzip.Unpacked :=
  match d.openFile archive with
  | .ok (_, some content) => .ok (Gzip.unpack content)
  | .ok (_, none) => .ok ⟨[], false⟩
  | .error fault => .error fault

/-- Unpack a worker archive into a directory. -/
def extract (archive dest : Path) : Step World Error Unit := do
  World.log .debug .worker s!"Extracting worker {archive.text} into {dest.text}"
  let unpacked ← (World.look fun d => open? d archive).mapError fun fault =>
    ⟨.clonerSetup, s!"cannot open worker '{archive.text}': {fault.message}"⟩
  (World.onDisk (Disk.makeDirWithParents dest)).mapError Error.ofIo
  (World.onDisk (unpackInto dest (Tar.members unpacked))).mapError fun fault =>
    ⟨.clonerSetup, s!"cannot extract worker '{archive.text}': {fault.message}"⟩

end RpmProvision.Archive.Worker
