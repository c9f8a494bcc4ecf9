/-
Repository files.

A repository file has sections, each for one repository, and settings `key=value` in them. Blank
lines and lines that start with `#` or `;` are skipped. Of the settings three are read; the last one
for a key counts. A repository is enabled unless its file says otherwise.
-/
import RpmProvision.Text.Blank
import RpmProvision.World

namespace RpmProvision

/-- A repository that a file defines. -/
structure Repository where
  id : String
  name : Option String
  baseUrl : Option String
  enabled : Bool
  deriving DecidableEq

namespace Repository

/-- Whether the repository carries unreleased packages: its id says "preview" in any
letter case. No letter outside ASCII has one of these letters as its lower case. -/
def isPreview (r : Repository) : Bool :=
  Text.occursIn ['p', 'r', 'e', 'v', 'i', 'e', 'w'] (r.id.toList.map Char.toLower)

/-- What a section starts with. -/
def ofId (id : String) : Repository := ⟨id, none, none, true⟩

/-- Apply a setting; an unknown key changes nothing. -/
def set (r : Repository) (key value : String) : Repository :=
  if key = "name" then { r with name := some value }
  else if key = "baseurl" then { r with baseUrl := some value }
  else if key = "enabled" then { r with enabled := value ∈ ["1", "true", "yes"] }
  else r

end Repository

namespace RepoFile

/-- What a line of a repository file says. -/
inductive Line where
  | skipped
  | header (id : String)
  | setting (key value : String)

/-- What is wrong with a line of a repository file. -/
inductive Fault where
  | badHeader (line : String)
  | noValue
  | outsideSection

/-- The text of a fault in the line with a number. -/
def Fault.message (number : Nat) : Fault → String
  | .badHeader line => s!"line {number}: bad section header '{line}'"
  | .noValue => s!"line {number}: expected key=value"
  | .outsideSection => s!"line {number}: key outside of a section"

/-- What the rest of a line after its opening bracket names. -/
def sectionId? (rest : List Char) : Option String :=
  if rest.getLast? = some ']' then
    match Text.trimChars rest.dropLast with
    | [] => none
    | id => some (String.ofList id)
  else none

/-- What a line says. -/
def readLine (line : List Char) : Except Fault Line :=
  match Text.trimChars line with
  | [] => .ok .skipped
  | c :: rest =>
    if c = '#' ∨ c = ';' then .ok .skipped
    else if c = '[' then
      match sectionId? rest with
      | some id => .ok (.header id)
      | none => .error (.badHeader (String.ofList (c :: rest)))
    else
      match Text.splitAtFirst? '=' (c :: rest) with
      | some (key, value) =>
        .ok (.setting (String.ofList (Text.trimChars key)) (String.ofList (Text.trimChars value)))
      | none => .error .noValue

/-- Add what a line says to the repositories read so far, the last one first. -/
def addLine (before : List Repository) (line : List Char) : Except Fault (List Repository) :=
  match readLine line with
  | .error fault => .error fault
  | .ok .skipped => .ok before
  | .ok (.header id) => .ok (Repository.ofId id :: before)
  | .ok (.setting key value) =>
    match before with
    | [] => .error .outsideSection
    | r :: rest => .ok (r.set key value :: rest)

/-- Add numbered lines to the repositories read so far, the last one first. -/
def addLines (before : List Repository) (number : Nat) :
    List (List Char) → Except (Nat × Fault) (List Repository)
  | [] => .ok before
  | line :: rest =>
    match addLine before line with
    | .ok after => addLines after (number + 1) rest
    | .error fault => .error (number, fault)

/-- The repositories that a text defines, or its first faulty line. -/
def parse (text : String) : Except (Nat × Fault) (List Repository) :=
  (addLines [] 1 (Text.lines text.toList)).map List.reverse

/-- The error of a run for a faulty line. -/
def faultError (fault : Nat × Fault) : Error := ⟨.parse, fault.2.message fault.1⟩

/-- Read a repository file. -/
def load (path : Path) : Step World Error (List Repository) := do
  let text ← (World.look fun d => d.readText path).mapError Error.ofIo
  Step.ofExcept ((parse text).mapError fun fault =>
    ⟨.parse, s!"{path.text}: {(faultError fault).message}"⟩)

end RepoFile

end RpmProvision
