/-
Summaries of fetched packages.

A summary tells for every package that was fetched where its RPM is and whether it was there before
the run. A later run that is given the summary takes the packages over and asks for none.

* **`toJson`**, **`ofJson?`** — the written form; of two members under one name the later one counts;
* **`load`** — refuses every version but the current one.
-/
import RpmProvision.Graph.Document
import RpmProvision.World

namespace RpmProvision

/-- A package in the output directory. -/
structure FetchedPackage where
  rpmPath : Path
  /-- It was in a directory of pre-built RPMs and not downloaded. -/
  prebuilt : Bool
  deriving DecidableEq

/-- The packages in the output directory by name. -/
abbrev Contents := SortedMap String FetchedPackage

/-- What a summary file holds. -/
structure Summary where
  version : UInt32
  packages : Contents
  deriving DecidableEq

namespace FetchedPackage

/-- The document of a package. -/
def toJson (p : FetchedPackage) : Json :=
  .record [("rpm_path", p.rpmPath.toJson), ("prebuilt", .bool p.prebuilt)]

/-- The package of a document. -/
def ofJson? (v : Json) : Option FetchedPackage := do
  match ← v.fields? ["rpm_path", "prebuilt"] with
  | [rpmPath, prebuilt] =>
    let rpmPath ← Json.required? Path.ofJson? rpmPath
    let prebuilt ← Json.required? Json.bool? prebuilt
    some ⟨rpmPath, prebuilt⟩
  | _ => none

end FetchedPackage

namespace Summary

/-- The version of summary files that is written and read. -/
def currentVersion : UInt32 := 1

/-- The summary of some packages. -/
def ofContents (packages : Contents) : Summary := ⟨currentVersion, packages⟩

/-- The document of a summary. -/
def toJson (s : Summary) : Json :=
  .record [("version", .natural s.version.toNat),
    ("packages", .record (s.packages.entries.map fun p => (p.1, p.2.toJson)))]

/-- The packages of a document. -/
def contentsOfJson? (v : Json) : Option Contents := do
  let members ← v.members?
  let packages ← members.mapM fun m => (FetchedPackage.ofJson? m.2).map (m.1, ·)
  some (SortedMap.ofList packages)

/-- The summary of a document. -/
def ofJson? (v : Json) : Option Summary := do
  match ← v.fields? ["version", "packages"] with
  | [version, packages] =>
    let version ← Json.required? Json.word32? version
    let packages ← Json.defaulted? ∅ contentsOfJson? packages
    some ⟨version, packages⟩
  | _ => none

/-- The text of a summary. -/
def render (s : Summary) : String := s.toJson.indented ++ "\n"

/-- The summary of a text. -/
def parse? (text : String) : Option Summary := (Json.read? text).bind ofJson?

/-- Read a summary file. -/
def load (path : Path) : Step World Error Summary := do
  let text ← (World.look fun d => d.readText path).mapError fun fault =>
    ⟨.summaryRestore, s!"'{path.text}': {fault.message}"⟩
  match parse? text with
  | none => Step.fail ⟨.summaryRestore, s!"'{path.text}': {Json.malformed}"⟩
  | some s =>
    if s.version = currentVersion then pure s
    else
      Step.fail ⟨.summaryRestore,
        s!"'{path.text}' has unsupported version {s.version} (expected {currentVersion})"⟩

/-- Write a summary file. -/
def save (s : Summary) (path : Path) : Step World Error Unit :=
  (World.onDisk (Disk.write path (Text.Utf8.encode s.render))).mapError fun fault =>
    ⟨.summarySave, s!"'{path.text}': {fault.message}"⟩

end Summary

end RpmProvision
