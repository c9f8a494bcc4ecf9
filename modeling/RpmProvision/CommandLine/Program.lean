/-
The program `pkgfetch`.

* **`run`** — what the program does on a world: its exit code, what it prints, and the world it
  leaves. Scratch directories are gone then.
-/
import RpmProvision.CommandLine.Arguments
import RpmProvision.CommandLine.LogFilter
import RpmProvision.Fetch
import RpmProvision.Tdnf.Cloner
import RpmProvision.TestTransaction

namespace RpmProvision.CommandLine

open Resolution

/-- What is shown of a failed run: what was being done, and why it failed. -/
structure Failure where
  headline : String
  cause : Option String

/-- Indent every line. -/
def indent (text : String) : String :=
  String.ofList (Text.joinWith '\n'
    ((Text.splitAtEach '\n' text.toList).map fun line => [' ', ' ', ' ', ' '] ++ line))

/-- The text of a failure. -/
def Failure.toText (f : Failure) : String :=
  "Error: " ++ f.headline ++
    match f.cause with
    | none => ""
    | some cause => "\n\nCaused by:\n" ++ indent cause

/-- What a finished program leaves behind. -/
structure Result where
  exitCode : Nat
  out : String
  err : String

/-- What `--version` prints. -/
def versionText : String := "pkgfetch 0.1.0\n"

/-- What an option is for. -/
def Setting.help : Setting → String
  | .input => "Input graph file"
  | .output => "Output graph file"
  | .outputDir => "Directory to download packages into"
  | .rpmDir => "Directory containing locally built RPMs"
  | .toolchainDir => "Directory containing RPMs built by the toolchain"
  | .tmpDir => "Directory for temporary files"
  | .worker => "Worker environment archive (tar.gz) containing tdnf"
  | .repoFile => "Repository file to use; may be given more than once"
  | .manifest => "File listing the RPMs produced by the toolchain"
  | .tlsCert => "TLS client certificate for repository access"
  | .tlsKey => "TLS client key for repository access"
  | .inputSummary => "Restore cloned packages from this summary instead of resolving nodes"
  | .outputSummary => "Save a summary of cloned packages to this file"
  | .logFile => "Also write logs to this file"
  | .logLevel => "Log filter (overrides RUST_LOG)"

/-- What a switch is for. -/
def Switch.help : Switch → String
  | .usePreviewRepo => "Enable preview repositories"
  | .disableDefaultRepos => "Do not use the worker's default repositories"
  | .localOnly => "Use no repositories but the RPMs at hand"
  | .stopOnFailure => "Fail if any node cannot be resolved"

/-- What `--help` prints. -/
def helpText : String :=
  "Usage: pkgfetch [OPTIONS]\n\nOptions:\n"
    ++ String.join (settings.map fun s => s!"  --{s.name} <VALUE>  {s.help}\n")
    ++ String.join (switches.map fun s => s!"  --{s.name}  {s.help}\n")

/-- The settings of a run. -/
def Options.config (o : Options) : Except Error FetchConfig := do
  let tls ← TlsCredentials.ofParts o.tlsCert o.tlsKey
  pure {
    inputGraph := o.input
    outputGraph := o.output
    manifest := o.manifest
    stopOnFailure := o.stopOnFailure
    inputSummary := Path.unlessBlank o.inputSummary
    outputSummary := Path.unlessBlank o.outputSummary
    cloneDeps := true
    cloner := {
      outDir := o.outputDir
      rpmDir := o.rpmDir
      toolchainDir := o.toolchainDir
      tmpDir := o.tmpDir
      workerArchive := o.worker
      repoFiles := o.repoFiles
      usePreviewRepo := o.usePreviewRepo
      disableDefaultRepos := o.disableDefaultRepos
      localOnly := o.localOnly
      tls } }

/-- The filter that the options or else the environment ask for. -/
def chooseFilter (level environment : Option String) : Except Failure LogFilter :=
  match level with
  | some level =>
    match LogFilter.parse? level with
    | some f => .ok f
    | none => .error ⟨s!"Invalid log level '{level}'", some "invalid filter directive"⟩
  | none => .ok ((environment.bind LogFilter.parse?).getD .standard)

/-- Create the log file, if one is wanted; from then on the log is written to it. -/
def openLog (f : LogFilter) : Option Path → Step World Failure Unit
  | none => pure ()
  | some path => do
    let location ← (World.onDisk (Disk.create path)).mapError fun fault =>
      ⟨s!"Failed to create log file {path.text}", some fault.message⟩
    let lineOf := fun e => Text.Utf8.encode (f.lineOf e)
    Step.modify fun w => { w with logFile := some ⟨location, 0, lineOf⟩ }

/-- Log how a run ended. -/
def logReport : Option Report → Step World Failure Unit
  | none => World.log .info .program "Graph had no unresolved nodes"
  | some report =>
    if report.restored then World.log .info .program "Restored cloned packages from summary"
    else do
      report.hardFailures.forM fun o =>
        World.log .warn .program s!"Unresolved node {o.node}"
      World.log .info .program
        s!"Resolved {report.resolvedCount} nodes, {report.hardFailures.length} failed"

/-- Get the packages, with a cloner that has got nothing before. -/
def fetch (tools : Tools) (config : FetchConfig) (root : Path) :
    Step World Failure (Option Report) := fun w =>
  match fetchPackages config (TestTransaction.arbiter tools root) (Tdnf.makeCloner tools)
      ⟨w, ∅⟩ with
  | (r, s) =>
    (r.mapError fun e =>
      ⟨s!"Failed to fetch packages for {config.inputGraph.text}", some e.message⟩, s.world)

/-- Set up the arbiter, get the packages, and log how that ended. -/
def runWith (tools : Tools) (o : Options) : Step World Failure Unit := do
  let config ← Step.ofExcept (o.config.mapError fun e => ⟨e.message, none⟩)
  let root ← (TestTransaction.makeRoot o.tmpDir).mapError fun e =>
    ⟨"Failed to set up the competing package resolver", some e.message⟩
  let report ← fetch tools config root
  logReport report

/-- The filter of the log, which is written to a file from then on if one is wanted. -/
def prepare (environment : Option String) (o : Options) : Step World Failure LogFilter := do
  let filter ← Step.ofExcept (chooseFilter o.logLevel environment)
  openLog filter o.logFile
  pure filter

/-- The result of a run that logged some text. -/
def resultOf (log : String) : Except Failure Unit → Result
  | .ok _ => ⟨0, "", log⟩
  | .error f => ⟨1, "", log ++ f.toText ++ "\n"⟩

/-- Run with given options. -/
def runOptions (tools : Tools) (environment : Option String) (o : Options) (w : World) :
    Result × World :=
  match prepare environment o w with
  | (.error f, w) => (resultOf "" (.error f), w)
  | (.ok filter, w) =>
    match runWith tools o w with
    | (r, w) => (resultOf (filter.textOf w.events) r, w.withoutScratches)

/-- Run with the arguments of a command line and the value of the environment's log filter. -/
def run (tools : Tools) (environment : Option String) (args : List String) (w : World) :
    Result × World :=
  match parse args with
  | .error .version => (⟨0, versionText, ""⟩, w)
  | .error .help => (⟨0, helpText, ""⟩, w)
  | .error (.misuse m) => (⟨2, "", s!"error: {m.message}\n"⟩, w)
  | .ok o => runOptions tools environment o w

end RpmProvision.CommandLine
