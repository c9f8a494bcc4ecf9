/-
Disks, and where a path leads on one.

A disk maps locations to what stands there: a directory, a file with its octets, or a symbolic
link. A location is the list of names from the root. A path is followed name by name: every name
but the last must lead to a directory in which names may be followed, links are replaced by their
targets, and at most forty links are followed.

* **`stretch`**, **`walk`** — where a list of names leads, up to the first link and past all links;
* **`resolve`** — where a path leads, and what stands there.
-/
import RpmProvision.SortedMap
import RpmProvision.Text.Utf8
import RpmProvision.Disk.Access
import RpmProvision.Disk.Path

namespace RpmProvision

/-- The names from the root to a place on the disk. -/
abbrev Location := List String

/-- What stands at a location. -/
inductive Entry where
  | directory
  | file (content : Bytes)
  | link (target : Path)
  deriving DecidableEq

/-- Why a file operation failed. -/
inductive IoFault where
  | notFound
  | alreadyExists
  | notDirectory
  | isDirectory
  | denied
  | notPermitted
  | busy
  | invalidArgument
  | nameTooLong
  | tooManyLinks
  | notText
  | notRegular
  | zeroInPath
  | zeroInArgument
  deriving DecidableEq

/-- The text of a failure. -/
def IoFault.message : IoFault → String
  | .notFound => "No such file or directory (os error 2)"
  | .alreadyExists => "File exists (os error 17)"
  | .notDirectory => "Not a directory (os error 20)"
  | .isDirectory => "Is a directory (os error 21)"
  | .denied => "Permission denied (os error 13)"
  | .notPermitted => "Operation not permitted (os error 1)"
  | .busy => "Device or resource busy (os error 16)"
  | .invalidArgument => "Invalid argument (os error 22)"
  | .nameTooLong => "File name too long (os error 36)"
  | .tooManyLinks => "Too many levels of symbolic links (os error 40)"
  | .notText => "stream did not contain valid UTF-8"
  | .notRegular => "the source path is neither a regular file nor a symlink to a regular file"
  | .zeroInPath => "file name contained an unexpected NUL byte"
  | .zeroInArgument => "nul byte found in provided data"

/-- Files, directories and links, the directory that relative paths start from, and what may be done
with an entry where that is not everything. The root is a directory without an entry of its own. -/
structure Disk where
  entries : SortedMap Location Entry
  workingDir : Location
  access : SortedMap Location Access

namespace Disk

/-- What stands at a location. -/
def entryAt (d : Disk) (l : Location) : Option Entry :=
  if l = [] then some .directory else d.entries.find? l

/-- What may be done with the entry at a location. -/
def accessAt (d : Disk) (l : Location) : Access := (d.access.find? l).getD .full

/-- Whether something may be put into and taken out of the directory of a location. -/
def mayChangeAround (d : Disk) (l : Location) : Bool := (d.accessAt l.dropLast).write

/-- Put an entry at a location, without a change to what may be done with it. -/
def put (d : Disk) (l : Location) (e : Entry) : Disk :=
  { d with entries := d.entries.insert l e }

/-- Say what may be done with the entry at a location. -/
def permit (d : Disk) (l : Location) (a : Access) : Disk :=
  { d with access := if a = .full then d.access.erase l else d.access.insert l a }

/-- Put a new entry at a location, with which everything may be done. -/
def renew (d : Disk) (l : Location) (e : Entry) : Disk := (d.put l e).permit l .full

/-- Remove what stands at a location and everything below it. -/
def removeTree (d : Disk) (l : Location) : Disk :=
  { d with
    entries := d.entries.filter fun l' _ => !l.isPrefixOf l'
    access := d.access.filter fun l' _ => !l.isPrefixOf l' }

/-- Everything below a location, by the names from there, directories before what they hold. -/
def below (d : Disk) (l : Location) : List (List String × Entry) :=
  d.entries.entries.filterMap fun p =>
    if l.isPrefixOf p.1 && l.length < p.1.length then some (p.1.drop l.length, p.2) else none

/-- What stands directly in a directory, by name. -/
def children (d : Disk) (l : Location) : List (String × Entry) :=
  (d.below l).filterMap fun p =>
    match p.1 with
    | [name] => some (name, p.2)
    | _ => none

/-- The longest name, in octets. -/
def maxNameSize : Nat := 255

/-- The length that a path must stay below, in octets. -/
def maxPathSize : Nat := 4096

/-- The names that a path is followed by. After a slash at the end comes an empty name, which stays
where it is but asks for a directory. -/
def namesOf (p : Path) : List String :=
  p.pieces.filter (· ≠ "") ++ (if p.endsInSlash then [""] else [])

/-- What is looked for at the end of a path. -/
inductive Goal where
  /-- The last name itself, also if it is a link. -/
  | entry
  /-- What the last name leads to. -/
  | target
  /-- A file to be written, which may be missing. There is none whose name ends in a slash. -/
  | output
  deriving DecidableEq

/-- How far names lead without following a link. -/
inductive Stretch where
  /-- The names are used up; `none` says that only the last one leads to nothing. -/
  | arrived (l : Location) (e : Option Entry)
  /-- A directory has a link where `rest` goes on. -/
  | atLink (dir : Location) (target : Path) (rest : List String)

/-- How far a list of names leads from a location without following a link. -/
def stretch (d : Disk) (goal : Goal) (l : Location) : List String → Except IoFault Stretch
  | [] => .ok (.arrived l (d.entryAt l))
  | name :: rest =>
    match d.entryAt l with
    | some .directory =>
      if name = "" then d.stretch goal l rest
      else if !(d.accessAt l).search then .error .denied
      else if name = "." then d.stretch goal l rest
      else if name = ".." then d.stretch goal l.dropLast rest
      else if goal = .output ∧ rest = [""] then .error .isDirectory
      else if maxNameSize < name.utf8ByteSize then .error .nameTooLong
      else
        match d.entryAt (l ++ [name]) with
        | none => if rest = [] then .ok (.arrived (l ++ [name]) none) else .error .notFound
        | some (.link target) =>
          if rest = [] ∧ goal = .entry then .ok (.arrived (l ++ [name]) (some (.link target)))
          else .ok (.atLink l target rest)
        | some _ => d.stretch goal (l ++ [name]) rest
    | some _ => .error .notDirectory
    | none => .error .notFound

/-- Where a list of names leads from a location, and what stands there, following at most `links`
links. -/
def walk (d : Disk) (goal : Goal) (links : Nat) (l : Location) (names : List String) :
    Except IoFault (Location × Option Entry) :=
  match links, d.stretch goal l names with
  | _, .error fault => .error fault
  | _, .ok (.arrived l e) => .ok (l, e)
  | 0, .ok (.atLink ..) => .error .tooManyLinks
  | links + 1, .ok (.atLink dir target rest) =>
    d.walk goal links (if target.isAbsolute then [] else dir) (namesOf target ++ rest)

/-- The number of links that are followed on one way. -/
def maxLinks : Nat := 40

/-- The location that a path starts from. -/
def startOf (d : Disk) (p : Path) : Location := if p.isAbsolute then [] else d.workingDir

/-- What keeps a text from being a path at all. -/
def pathFault? (p : Path) : Option IoFault :=
  if p.text = "" then some .notFound
  else if p.text.toList.contains '\x00' then some .zeroInPath
  else if maxPathSize ≤ p.text.utf8ByteSize then some .nameTooLong
  else none

/-- Where a path leads by the given names, and what stands there. -/
def resolveNames (d : Disk) (goal : Goal) (p : Path) (names : List String) :
    Except IoFault (Location × Option Entry) :=
  match pathFault? p with
  | some fault => .error fault
  | none => d.walk goal maxLinks (d.startOf p) names

/-- Where a path leads, and what stands there. -/
def resolve (d : Disk) (goal : Goal) (p : Path) : Except IoFault (Location × Option Entry) :=
  d.resolveNames goal p (namesOf p)

/-- What a path leads to. -/
def find (d : Disk) (p : Path) : Except IoFault (Location × Entry) :=
  match d.resolve .target p with
  | .ok (l, some e) => .ok (l, e)
  | .ok (_, none) => .error .notFound
  | .error fault => .error fault

/-- Whether a path leads to a directory. -/
def isDirectory (d : Disk) (p : Path) : Bool :=
  match d.find p with
  | .ok (_, .directory) => true
  | _ => false

/-- Whether a path leads to a file. -/
def isFile (d : Disk) (p : Path) : Bool :=
  match d.find p with
  | .ok (_, .file _) => true
  | _ => false

end Disk

end RpmProvision
