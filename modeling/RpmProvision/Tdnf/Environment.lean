/-
The environment that packages are looked up from.

A worker archive is unpacked into a scratch directory, and the repository files are copied beside
it. Which repositories are used is decided once, by arguments that every later call gets.

* **`repositoryArgs`** — the arguments that turn repositories on and off;
* **`setUp`** — an environment for given settings.
-/
import RpmProvision.Archive.Worker
import RpmProvision.Config
import RpmProvision.RepoFile
import RpmProvision.Tdnf.LocalRpms

namespace RpmProvision.Tdnf

/-- Where packages are looked up and where they are put. -/
structure Environment where
  outDir : Path
  /-- The unpacked worker archive. -/
  root : Path
  /-- The directory with the repository files. -/
  reposDir : Path
  /-- What every call is told about repositories. -/
  repositoryArgs : List String
  /-- The RPMs at hand by package. -/
  localRpms : SortedMap String Path
  deriving DecidableEq

/-- The argument that turns a repository off. -/
def disableArg (id : String) : String := "--disablerepo=" ++ id

/-- The argument that turns a repository on. -/
def enableArg (id : String) : String := "--enablerepo=" ++ id

/-! ### Repository files -/

/-- Where an archive keeps its own repository files. -/
def defaultReposDir (root : Path) : Path := root.child "etc/yum.repos.d"

/-- The repository files that an archive brings. -/
def defaultRepoFiles (d : Disk) (root : Path) : Except IoFault (List Path) :=
  if d.isDirectory (defaultReposDir root) then
    (d.list (defaultReposDir root)).map fun entries =>
      (entries.map fun e => (defaultReposDir root).child e.1).filter (·.extension? = some "repo")
  else .ok []

/-- The repository files to use. -/
def repoSources (config : ClonerConfig) (root : Path) (d : Disk) : Except IoFault (List Path) :=
  if config.disableDefaultRepos then .ok config.repoFiles
  else (defaultRepoFiles d root).map (config.repoFiles ++ ·)

/-- A number in at least two digits. -/
def twoDigits (n : Nat) : String := (if n < 10 then "0" else "") ++ toString n

/-- The name of the copy of the `index`-th repository file. -/
def copyName (index : Nat) (source : Path) : String :=
  twoDigits index ++ "-" ++ source.fileName?.getD "repo"

/-- Copy numbered repository files into a directory. -/
def copyRepoFiles (reposDir : Path) : List (Path × Nat) → Step World Error (List Path)
  | [] => pure []
  | (source, index) :: rest => do
    let copy := reposDir.child (copyName index source)
    (World.onDisk (Disk.copy source copy)).mapError fun fault =>
      ⟨.clonerSetup, s!"cannot copy repo file '{source.text}': {fault.message}"⟩
    let copies ← copyRepoFiles reposDir rest
    pure (copy :: copies)

/-- The argument about a repository, if there is one: a preview repository is turned off unless
preview repositories are wanted, and then it is turned on if its file leaves it off. -/
def previewArg? (usePreview : Bool) (r : Repository) : Option String :=
  if !r.isPreview then none
  else if !usePreview then some (disableArg r.id)
  else if !r.enabled then some (enableArg r.id)
  else none

/-- The arguments about the repositories that some files define. -/
def previewArgs (usePreview : Bool) : List Path → Step World Error (List String)
  | [] => pure []
  | file :: rest => do
    let repositories ← (RepoFile.load file).mapError fun e => ⟨.clonerSetup, e.message⟩
    let more ← previewArgs usePreview rest
    pure (repositories.filterMap (previewArg? usePreview) ++ more)

/-- The arguments that turn repositories on and off. -/
def selectionArgs (config : ClonerConfig) (files : List Path) : Step World Error (List String) :=
  if config.localOnly then do
    World.log .debug .cloner "Upstream repositories disabled, only local RPMs will be used"
    pure [disableArg "*"]
  else previewArgs config.usePreviewRepo files

/-! ### RPMs at hand as repositories -/

/-- The name of the repository that the `k`-th directory of RPMs at hand makes. -/
def localId (k : Nat) : String := s!"local-{k}"

/-- The arguments about a directory of RPMs, which is a repository if it has repository data. -/
def localArgs (d : Disk) (k : Nat) (dir : Path) : List String :=
  if d.isDirectory (dir.child "repodata") then
    [s!"--repofrompath={localId k},{dir.text}", enableArg (localId k)]
  else []

/-- The arguments about the client certificate. -/
def tlsArgs : Option TlsCredentials → List String
  | none => []
  | some tls => ["--setopt=sslclientcert=" ++ tls.cert.text, "--setopt=sslclientkey=" ++ tls.key.text]

/-- All that a call is told about repositories. -/
def repositoryArgs (config : ClonerConfig) (selection : List String) (d : Disk) : List String :=
  selection ++ localArgs d 0 config.rpmDir ++ localArgs d 1 config.toolchainDir
    ++ tlsArgs config.tls

/-! ### Setting up -/

/-- Make the scratch directory. -/
def makeScratch (tmpDir : Option Path) : Step World Error Path := do
  match tmpDir with
  | some dir => (World.onDisk (Disk.makeDirWithParents dir)).mapError Error.ofIo
  | none => pure ()
  (World.makeScratch (tmpDir.getD World.systemTemp)).mapError fun fault =>
    ⟨.clonerSetup, s!"cannot create scratch directory: {fault.message}"⟩

/-- Set up an environment in a scratch directory. -/
def setUpIn (config : ClonerConfig) (scratch : Path) : Step World Error Environment := do
  let root := scratch.child "worker"
  Archive.Worker.extract config.workerArchive root
  let reposDir := scratch.child "repos.d"
  (World.onDisk (Disk.makeDirWithParents reposDir)).mapError Error.ofIo
  let sources ← (World.look fun d => repoSources config root d).mapError Error.ofIo
  let files ← copyRepoFiles reposDir sources.zipIdx
  let selection ← selectionArgs config files
  let repositoryArgs ← Step.asks fun w => repositoryArgs config selection w.disk
  let localRpms ← Step.asks fun w => index w.disk [config.rpmDir, config.toolchainDir]
  World.log .info .cloner
    s!"Cloner ready: {files.length} repo files, {localRpms.size} local pre-built RPMs"
  pure { outDir := config.outDir, root, reposDir, repositoryArgs, localRpms }

/-- Set up an environment. -/
def setUp (config : ClonerConfig) : Step World Error Environment := do
  (World.look fun d => config.validate d).mapError fun e => ⟨.clonerSetup, e.message⟩
  (World.onDisk (Disk.makeDirWithParents config.outDir)).mapError fun fault =>
    ⟨.clonerSetup, s!"cannot create '{config.outDir.text}': {fault.message}"⟩
  let scratch ← makeScratch config.tmpDir
  (setUpIn config scratch).onError fun _ => World.removeScratch scratch

end RpmProvision.Tdnf
