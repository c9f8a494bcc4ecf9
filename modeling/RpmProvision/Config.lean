/-
Settings of a run.
-/
import RpmProvision.Text.Blank
import RpmProvision.World

namespace RpmProvision

/-- The client certificate for repositories, and its key. -/
structure TlsCredentials where
  cert : Path
  key : Path
  deriving DecidableEq

/-- A certificate and a key come together. -/
def TlsCredentials.ofParts (cert key : Option Path) : Except Error (Option TlsCredentials) :=
  match cert, key with
  | some cert, some key => .ok (some ⟨cert, key⟩)
  | none, none => .ok none
  | some _, none => .error ⟨.config, "a TLS client certificate was given without a key"⟩
  | none, some _ => .error ⟨.config, "a TLS client key was given without a certificate"⟩

/-- Settings for getting packages. -/
structure ClonerConfig where
  /-- Where RPMs are put. -/
  outDir : Path
  /-- Where RPMs are that were built before. -/
  rpmDir : Path
  /-- Where RPMs are that the toolchain built. -/
  toolchainDir : Path
  /-- Where scratch directories go. -/
  tmpDir : Option Path
  /-- The archive with the environment that packages are looked up from. -/
  workerArchive : Path
  repoFiles : List Path
  usePreviewRepo : Bool
  /-- Do not use the repositories that the archive defines. -/
  disableDefaultRepos : Bool
  /-- Use the RPMs at hand and nothing else. -/
  localOnly : Bool
  tls : Option TlsCredentials

/-- Settings of a run. -/
structure FetchConfig where
  inputGraph : Path
  outputGraph : Path
  manifest : Option Path
  /-- Fail the run if a node could not be resolved. -/
  stopOnFailure : Bool
  /-- Take packages over from this summary instead of resolving nodes. -/
  inputSummary : Option Path
  /-- Save a summary of the packages here. -/
  outputSummary : Option Path
  /-- Get what packages depend on as well. -/
  cloneDeps : Bool
  cloner : ClonerConfig

/-- A path that is not blank; a blank one counts as absent. -/
def Path.unlessBlank (path : Option Path) : Option Path :=
  path.filter fun p => !Text.isAllBlank p.text

namespace ClonerConfig

/-- Insist on a directory. -/
def requireDir (d : Disk) (what : String) (p : Path) : Except Error Unit :=
  if d.isDirectory p then .ok ()
  else .error ⟨.config, s!"{what} '{p.text}' is not a directory"⟩

/-- Insist on a file. -/
def requireFile (d : Disk) (what : String) (p : Path) : Except Error Unit :=
  if d.isFile p then .ok () else .error ⟨.config, s!"{what} '{p.text}' does not exist"⟩

/-- Check that all that has to be there is there. -/
def validate (c : ClonerConfig) (d : Disk) : Except Error Unit := do
  requireDir d "rpm directory" c.rpmDir
  requireDir d "toolchain rpm directory" c.toolchainDir
  requireFile d "worker archive" c.workerArchive
  if c.repoFiles.isEmpty then .error ⟨.config, "at least one repo file is required"⟩
  c.repoFiles.forM (requireFile d "repo file")
  match c.tls with
  | none => pure ()
  | some tls => do
    requireFile d "TLS client certificate" tls.cert
    requireFile d "TLS client key" tls.key

end ClonerConfig

end RpmProvision
