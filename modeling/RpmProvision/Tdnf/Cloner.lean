/-
The source of packages that the `tdnf` tool reaches.

RPMs at hand are copied into the output directory, all others are downloaded. What a download brings
along is recorded as well, so every RPM that appears in the output directory is.

* **`whatProvides`**, **`clonePackage`**, **`restore`** — the operations of a cloner;
* **`Contents.record`** — what is known of a package is not changed by its being brought along.
-/
import RpmProvision.Cloner
import RpmProvision.Listing.Provides
import RpmProvision.Tdnf.Environment
import RpmProvision.Text.Quoted

namespace RpmProvision.Tdnf

/-! ### Calls of the tool -/

namespace Environment

/-- The arguments that come first in every call. -/
def baseArgs (env : Environment) : List String :=
  ["--assumeyes", "--installroot=" ++ env.root.text, "--setopt=reposdir=" ++ env.reposDir.text]
    ++ env.repositoryArgs

/-- The RPM of a package in the output directory. -/
def rpmPath (env : Environment) (package : String) : Path :=
  RpmProvision.rpmPath package env.outDir

/-- The arguments of a download. -/
def downloadArgs (env : Environment) (cloneDeps : Bool) (package : String) : List String :=
  ["install", "--downloadonly", "--downloaddir=" ++ env.outDir.text]
    ++ (if cloneDeps then ["--alldeps"] else []) ++ [package]

end Environment

/-- Call the tool. -/
def call (tools : Tools) (env : Environment) (args : List String) : Step World Error Reply := do
  World.log .debug .cloner ("Running tdnf " ++ String.intercalate " " (env.baseArgs ++ args))
  (World.spawn tools "tdnf" (env.baseArgs ++ args)).mapError fun fault =>
    ⟨.command, s!"Failed to run tdnf: {fault.message}. Is tdnf installed?"⟩

/-- Download a package. -/
def download (tools : Tools) (env : Environment) (cloneDeps : Bool) (package : String) :
    Step World Error Unit := do
  let reply ← call tools env (env.downloadArgs cloneDeps package)
  if !reply.success then
    Step.fail ⟨.fetch,
      s!"tdnf could not download '{package}': {Text.trim (Text.Utf8.decodeLossy reply.err)}"⟩
  else if ← Step.asks fun w => w.disk.isFile (env.rpmPath package) then pure ()
  else
    Step.fail ⟨.fetch,
      s!"tdnf reported success but '{(env.rpmPath package).text}' is missing"⟩

/-- Copy an RPM at hand into the output directory, unless it is there under the same path. -/
def copyLocal (env : Environment) (package : String) (source : Path) : Step World Error Unit :=
  let dest := env.rpmPath package
  if source.sameAs dest then pure ()
  else
    (World.onDisk (Disk.copy source dest)).mapError fun fault =>
      ⟨.fetch, s!"cannot copy '{source.text}' to '{dest.text}': {fault.message}"⟩

/-! ### Providers -/

/-- What the tool prints if nothing provides a requirement. -/
def noMatchMarkers : List String :=
  ["No data available", "No matching packages", "No match for argument"]

/-- Whether an output says that nothing provides a requirement. -/
def saysNoMatch (output : String) : Bool :=
  noMatchMarkers.any fun marker => Text.occursIn marker.toList output.toList

/-- The packages that provide a requirement. -/
def whatProvides (tools : Tools) (env : Environment) (r : Requirement) :
    Step World Error (List String) := do
  let reply ← call tools env ["provides", r.toText]
  let out := Text.Utf8.decodeLossy reply.out
  let err := Text.Utf8.decodeLossy reply.err
  if !reply.success then
    if saysNoMatch err || saysNoMatch out then pure []
    else Step.fail ⟨.providerLookup, s!"tdnf provides '{r.toText}' failed: {Text.trim err}"⟩
  else do
    let providers := Listing.Provides.parse out
    World.log .debug .cloner
      s!"'{r.toText}' is provided by {Text.quotedList providers}"
    pure providers

/-! ### Getting packages -/

/-- What is recorded of a package that was brought along by another one. -/
def Environment.broughtAlong (env : Environment) (name : String) : FetchedPackage :=
  ⟨env.rpmPath name, env.localRpms.contains name⟩

/-- Record packages that were brought along, as far as they are not known. -/
def addBroughtAlong (env : Environment) (names : List String) (known : Contents) : Contents :=
  names.foldl (fun m n => if m.contains n then m else m.insert n (env.broughtAlong n)) known

/-- The packages of a second look that are not in a first one, apart from one. -/
def appeared (before after : SortedSet String) (package : String) : List String :=
  after.keys.filter fun n => !before.contains n && n != package

/-- Get a package into the output directory; the result tells whether it was at hand. -/
def obtain (tools : Tools) (env : Environment) (cloneDeps : Bool) (package : String) :
    Step World Error Bool :=
  match env.localRpms.find? package with
  | some source => do
    copyLocal env package source
    if cloneDeps then download tools env true package
    pure true
  | none => do
    download tools env cloneDeps package
    pure false

/-- Record a package and what has appeared in the output directory since a first look. -/
def record (env : Environment) (before : SortedSet String) (package : String) (prebuilt : Bool) :
    Step (Session Contents) Error Unit := do
  let after ← Session.onWorld (World.look (scan env.outDir))
  let names := appeared before after package
  names.forM fun name =>
    Session.log .debug .cloner s!"'{name}' was cloned as a dependency of '{package}'"
  Step.modify fun s =>
    { s with agent :=
      (addBroughtAlong env names s.agent).insert package ⟨env.rpmPath package, prebuilt⟩ }

/-- Get a package and record it. -/
def clonePackage (tools : Tools) (env : Environment) (cloneDeps : Bool) (package : String) :
    Step (Session Contents) Error Bool := do
  let before ← Session.onWorld (World.look (scan env.outDir))
  let prebuilt ← Session.onWorld (obtain tools env cloneDeps package)
  record env before package prebuilt
  pure prebuilt

/-! ### Restoring, and making a repository -/

/-- See to it that the RPM of a package is in the output directory. -/
def ensure (tools : Tools) (env : Environment) (name : String) : Step World Error Unit := do
  if ← Step.asks fun w => w.disk.isFile (env.rpmPath name) then pure ()
  else
    match env.localRpms.find? name with
    | some source => copyLocal env name source
    | none => do
      World.log .warn .cloner
        s!"'{name}' is missing from the output directory, downloading it again"
      download tools env false name

/-- A package as it is recorded after a restore: its RPM is where this environment puts it. -/
def Environment.restored (env : Environment) (entry : String × FetchedPackage) :
    String × FetchedPackage :=
  (entry.1, ⟨env.rpmPath entry.1, entry.2.prebuilt⟩)

/-- Take over the packages of a summary. -/
def restore (tools : Tools) (env : Environment) (summary : Summary) :
    Step (Session Contents) Error Unit := do
  summary.packages.keys.forM fun name => Session.onWorld (ensure tools env name)
  Step.modify fun s =>
    { s with agent := SortedMap.ofList (summary.packages.entries.map env.restored) }

/-- Turn the output directory into a repository. -/
def convert (tools : Tools) (env : Environment) : Step World Error Unit := do
  World.log .info .cloner s!"Converting {env.outDir.text} into a local repository"
  let reply ← (World.spawn tools "createrepo_c"
    ["--compatibility", "--update", env.outDir.text]).mapError fun fault =>
      ⟨.repositoryConversion, s!"Failed to run createrepo_c: {fault.message}"⟩
  if reply.success then pure ()
  else Step.fail ⟨.repositoryConversion, Text.trim (Text.Utf8.decodeLossy reply.err)⟩

/-- The cloner of an environment; its state is what it has got. -/
def cloner (tools : Tools) (env : Environment) : Cloner Contents where
  whatProvides r := Session.onWorld (whatProvides tools env r)
  clonePackage := clonePackage tools env
  convert := Session.onWorld (convert tools env)
  contents s := (Summary.ofContents s.agent, s)
  restore := restore tools env

/-- Set up an environment, and the cloner that uses it. -/
def makeCloner (tools : Tools) (config : ClonerConfig) :
    Step (Session Contents) Error (Cloner Contents) := do
  let env ← Session.onWorld (setUp config)
  pure (cloner tools env)

end RpmProvision.Tdnf
