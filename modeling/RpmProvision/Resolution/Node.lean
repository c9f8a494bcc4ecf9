/-
Resolving one node.

The packages that provide the node's requirement are got, each once in a run. If there are several,
one RPM is chosen among them. The node then has this RPM, and nothing has to wait for the node if
the RPM is a toolchain package that was there before.

* **`resolveInPlace`** — gives the node its RPM, or ends in an error; what was got is remembered in
  either case;
* **`resolveNode`** — the node with its RPM.
-/
import RpmProvision.Cloner
import RpmProvision.Graph.Basic
import RpmProvision.Manifest
import RpmProvision.Resolution.Cache
import RpmProvision.Selection

namespace RpmProvision.Resolution

/-- What the resolution of every node of a run shares. -/
structure Context (τ : Type) where
  cloner : Cloner τ
  arbiter : Arbiter τ
  manifest : Manifest
  /-- Where RPMs are put. -/
  outDir : Path
  /-- Get what packages depend on as well. -/
  cloneDeps : Bool

/-- The session of a run, and what the run has got so far. -/
structure Progress (τ : Type) where
  session : Session τ
  cache : Cache

namespace Progress

variable {τ α : Type}

/-- A step over the session. -/
def onSession (x : Step (Session τ) Error α) : Step (Progress τ) Error α :=
  x.within Progress.session fun session p => { p with session }

/-- Add an event about a node to the log. -/
def log (level : Level) (message : String) : Step (Progress τ) Error Unit :=
  onSession (Session.log level .node message)

end Progress

variable {τ : Type}

/-- The error of a node whose requirement nothing provides. -/
def noProvider (r : Requirement) : Error :=
  ⟨.providerLookup, s!"failed to find any packages providing '{r.toText}'"⟩

/-- Insist that there is a package. -/
def someProvider (r : Requirement) (providers : List String) : Except Error (List String) :=
  if providers = [] then .error (noProvider r) else .ok providers

/-- Report that a requirement has no provider: quietly if something built later may have it. -/
def logLookupFailure (n : Node) (e : Error) : Step (Session τ) Error Unit :=
  Session.log (if n.implicit then .debug else .error) .node
    s!"Failed to resolve ({n.requirement.toText}) to a package. Error: {e.message}"

/-- The packages that provide a node's requirement, each once. -/
def findProviders (ctx : Context τ) (n : Node) : Step (Session τ) Error (List String) := do
  Session.log .debug .node
    s!"Searching for a package which supplies: {n.requirement.name}"
  let found : Step (Session τ) Error (List String) := do
    let providers ← ctx.cloner.whatProvides n.requirement
    Step.ofExcept (someProvider n.requirement providers)
  let providers ← (found.onError (logLookupFailure n)).mapError (Error.asKind .providerLookup)
  pure providers.eraseDups

/-- The error of a node one of whose packages could not be got. An unusable output directory is an
error of its own. -/
def fetchError (package : String) (e : Error) : Error :=
  if e.kind = .io then e
  else ⟨.fetch, s!"failed to clone '{package}' from RPM repo: {e.message}"⟩

/-- Get a package and remember it. -/
def fetch (ctx : Context τ) (package : String) : Step (Progress τ) Error Unit := do
  let prebuilt ← Progress.onSession
    ((ctx.cloner.clonePackage ctx.cloneDeps package).mapError (fetchError package))
  Step.modify fun p => { p with cache := p.cache.record package prebuilt }
  Progress.log .debug
    s!"Fetched '{package}' as potential candidate (is pre-built: {prebuilt})."

/-- Get the packages of a list that the run has not got yet. -/
def fetchMissing (ctx : Context τ) : List String → Step (Progress τ) Error Unit
  | [] => pure ()
  | package :: rest => do
    if ← Step.asks fun p => p.cache.isFetched package then pure ()
    else fetch ctx package
    fetchMissing ctx rest

/-- A package and its RPM. -/
structure Candidate where
  package : String
  rpm : Path
  deriving DecidableEq

/-- The candidates that some packages make. -/
def candidates (outDir : Path) (packages : List String) : List Candidate :=
  packages.map fun p => ⟨p, rpmPath p outDir⟩

/-- Choose one of several candidates. -/
def chooseAmong (ctx : Context τ) (r : Requirement) (all : List Candidate) :
    Step (Session τ) Error Candidate := do
  let chosen ← Selection.choose ctx.arbiter r (all.map Candidate.rpm)
  match all.find? (·.rpm.sameAs chosen) with
  | some c => pure c
  | none => Step.fail ⟨.competition, s!"'{chosen.text}' is not a candidate"⟩

/-- Choose a candidate; a single one is taken unasked. -/
def choose (ctx : Context τ) (r : Requirement) (all : List Candidate) :
    Step (Session τ) Error Candidate :=
  match all with
  | [c] => pure c
  | _ => chooseAmong ctx r all

/-- Find the candidate that a node gets the RPM of. -/
def nominate (ctx : Context τ) (n : Node) : Step (Progress τ) Error Candidate := do
  Progress.log .debug s!"Adding node {n.friendlyName} to the cache"
  let providers ← Progress.onSession (findProviders ctx n)
  fetchMissing ctx providers
  Progress.onSession (choose ctx n.requirement (candidates ctx.outDir providers))

/-! ### The node that is worked on -/

/-- A node that is being resolved, and the progress of the run. -/
structure Resolving (τ : Type) where
  node : Node
  progress : Progress τ

namespace Resolving

variable {α : Type}

/-- A step over the progress. -/
def onProgress (x : Step (Progress τ) Error α) : Step (Resolving τ) Error α := fun s =>
  match x s.progress with
  | (r, progress) => (r, { s with progress })

/-- Change the node. -/
def change (f : Node → Node) : Step (Resolving τ) Error Unit :=
  Step.modify fun s => { s with node := f s.node }

end Resolving

/-- Say how far the node has come with the RPM of a candidate. Nothing has to wait for a toolchain
package that was there before. -/
def advance (ctx : Context τ) (c : Candidate) : Step (Resolving τ) Error Unit := do
  let prebuilt ← Step.asks fun s => s.progress.cache.isPrebuilt c.package
  if ctx.manifest.isPrebuiltToolchain c.rpm prebuilt then do
    Resolving.onProgress <|
      Progress.log .debug "Using a prebuilt toolchain package to resolve this dependency"
    Resolving.change fun n => { n with state := .upToDate, kind := .preBuilt }
  else Resolving.change fun n => { n with state := .cached }

/-- Give the node the RPM of a candidate. -/
def settleOn (ctx : Context τ) (c : Candidate) : Step (Resolving τ) Error Unit := do
  advance ctx c
  let name ← Step.asks fun s => s.node.requirement.name
  let fileName := c.rpm.fileName?.getD ""
  Resolving.onProgress (Progress.log .info s!"Choosing '{fileName}' to provide '{name}'.")
  Resolving.change fun n => { n with rpmPath := some c.rpm }

/-- Insist that the node wants an RPM. -/
def requireUnresolved : Step (Resolving τ) Error Unit := do
  let n ← Step.asks Resolving.node
  if n.state = .unresolved then pure () else Step.fail (GraphFault.notUnresolved n).toError

/-- Resolve an unresolved node. The node is changed once its candidate is known. -/
def resolveInPlace (ctx : Context τ) : Step (Resolving τ) Error Unit := do
  requireUnresolved
  let n ← Step.asks Resolving.node
  let chosen ← Resolving.onProgress (nominate ctx n)
  settleOn ctx chosen

/-- The node that an unresolved node becomes. -/
def resolveNode (ctx : Context τ) (n : Node) : Step (Progress τ) Error Node := fun p =>
  let r := resolveInPlace ctx ⟨n, p⟩
  (r.1.map fun _ => r.2.node, r.2.progress)

end RpmProvision.Resolution
