/-
Toolchain manifests.

A manifest lists the file names of the RPMs that the toolchain produced, one on a line. Blank lines
and lines that start with `#` are skipped.
-/
import RpmProvision.Text.Blank
import RpmProvision.World

namespace RpmProvision

/-- The file names of the toolchain's RPMs. -/
structure Manifest where
  rpms : SortedSet String

namespace Manifest

/-- The manifest of a list of file names. -/
def ofList (names : List String) : Manifest := ⟨SortedMap.ofList (names.map (·, ()))⟩

/-- The file name that a line of a manifest names. -/
def nameOfLine? (line : List Char) : Option String :=
  match Text.trimChars line with
  | [] => none
  | c :: cs => if c = '#' then none else some (String.ofList (c :: cs))

/-- The manifest of a text. -/
def parse (text : String) : Manifest := ofList ((Text.lines text.toList).filterMap nameOfLine?)

/-- The number of file names. -/
def size (m : Manifest) : Nat := m.rpms.size

/-- Whether an RPM, given by a path or a bare file name, is listed. -/
def lists (m : Manifest) (rpm : Path) : Bool :=
  match rpm.fileName? with
  | some name => m.rpms.contains name
  | none => false

/-- Whether an RPM was there before the run and is listed. -/
def isPrebuiltToolchain (m : Manifest) (rpm : Path) (prebuilt : Bool) : Bool :=
  prebuilt && m.lists rpm

/-- Read a manifest file; without a path the manifest is empty. -/
def load : Option Path → Step World Error Manifest
  | none => do
    World.log .debug .manifest
      "No toolchain manifest given, no packages will be marked pre-built"
    pure (ofList [])
  | some path => do
    let text ← (World.look fun d => d.readText path).mapError fun fault =>
      ⟨.manifestRead, s!"'{path.text}': {fault.message}"⟩
    let m := parse text
    World.log .debug .manifest s!"Loaded {m.size} toolchain RPMs from {path.text}"
    pure m

end Manifest

end RpmProvision
