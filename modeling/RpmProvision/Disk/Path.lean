/-
File paths.

A path is its text; nothing is normalised when paths are joined. For comparisons and for the parts
of a path the text is cut at its slashes: empty pieces count for nothing, and neither does a `.`
that is not the whole beginning of a relative path.

* **`join`** — an absolute path replaces what it is joined to;
* **`sameAs`** — two texts are the same path when their components agree.
-/
import RpmProvision.Text.Lines

namespace RpmProvision

/-- A file path. -/
structure Path where
  text : String
  deriving DecidableEq

namespace Path

/-- A part of a path. -/
inductive Component where
  | root
  | here
  | up
  | name (n : String)
  deriving DecidableEq

/-- The pieces between the slashes. -/
def pieces (p : Path) : List String :=
  (Text.splitAtEach '/' p.text.toList).map String.ofList

/-- Whether the path starts at the root. -/
def isAbsolute (p : Path) : Bool := p.text.toList.head? == some '/'

/-- Whether the text ends in a slash. -/
def endsInSlash (p : Path) : Bool := p.text.toList.getLast? == some '/'

/-- Whether a piece after the first counts for nothing. -/
def isIdle (piece : String) : Bool := piece == "" || piece == "."

/-- The component that a piece stands for. -/
def componentOf (piece : String) : Component :=
  if piece == "." then .here else if piece == ".." then .up else .name piece

/-- The components of a path whose first piece is given apart. -/
def componentsOf (first : String) (rest : List String) : List Component :=
  (if first == "" then (if rest.isEmpty then [] else [.root]) else [componentOf first])
    ++ (rest.filter (!isIdle ·)).map componentOf

/-- The components of a path. -/
def components (p : Path) : List Component :=
  match p.pieces with
  | [] => []
  | first :: rest => componentsOf first rest

/-- Whether two texts are the same path. -/
def sameAs (p q : Path) : Bool := p.components == q.components

/-- The second path seen from the first. -/
def join (p q : Path) : Path :=
  if q.isAbsolute then q
  else if p.text == "" || p.endsInSlash then ⟨p.text ++ q.text⟩
  else ⟨p.text ++ "/" ++ q.text⟩

/-- A name inside a directory. -/
def child (p : Path) (name : String) : Path := p.join ⟨name⟩

/-- The last component, if it is a name. -/
def fileName? (p : Path) : Option String :=
  match p.components.getLast? with
  | some (.name n) => some n
  | _ => none

/-- Drop the pieces at the end that count for nothing. -/
def dropIdle : List String → List String
  | [] => []
  | piece :: rest =>
    match dropIdle rest with
    | [] => if isIdle piece then [] else [piece]
    | q :: qs => piece :: q :: qs

/-- The path without its last component; a root and an empty path have no parent. -/
def parent? (p : Path) : Option Path :=
  match p.pieces with
  | [] => none
  | first :: rest =>
    match dropIdle rest with
    | [] => if first == "" then none else some ⟨""⟩
    | kept =>
      match dropIdle kept.dropLast with
      | [] => some ⟨if first == "" then "/" else first⟩
      | shorter => some ⟨String.intercalate "/" (first :: shorter)⟩

/-- A name cut at its last point, unless the point is its first character. -/
def cutAtPoint (name : String) : String × Option String :=
  match Text.splitAtFirst? '.' name.toList.reverse with
  | some (_, []) => (name, none)
  | some (after, before) => (String.ofList before.reverse, some (String.ofList after.reverse))
  | none => (name, none)

/-- What stands after the last point of the file name. -/
def extension? (p : Path) : Option String := p.fileName?.bind fun n => (cutAtPoint n).2

/-- The file name without its extension. -/
def stem? (p : Path) : Option String := p.fileName?.map fun n => (cutAtPoint n).1

/-- The path and the paths above it, at most `n` of them. -/
def ancestors (p : Path) : Nat → List Path
  | 0 => [p]
  | n + 1 =>
    match p.parent? with
    | some q => p :: q.ancestors n
    | none => [p]

end Path

end RpmProvision
