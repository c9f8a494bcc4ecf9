/-
Collaborators that know more.

A cloner and an arbiter may carry more state than others and otherwise do the same, for instance
because they keep a record. A run with them is the run with the others once the additional state is
forgotten.

* **`Cloner.Lifts`**, **`Arbiter.Lifts`**, **`Context.Lifts`** — collaborators that do what others do;
* **`Context.Lifts.resolveGraph`** — a run with the former is the run with the latter.
-/
import RpmProvision.Proofs.Resolution.InPlace
import RpmProvision.Proofs.Selection

namespace RpmProvision

variable {σ τ ε α : Type} {f : σ → τ}

/-- The session in which less is known. -/
def Session.mapAgent (f : σ → τ) (s : Session σ) : Session τ := ⟨s.world, f s.agent⟩

open Step

/-- The first cloner does what the second does, and knows more. -/
structure Cloner.Lifts (f : σ → τ) (c' : Cloner σ) (c : Cloner τ) : Prop where
  whatProvides : ∀ r, Mirrors (Session.mapAgent f) (c'.whatProvides r) (c.whatProvides r)
  clonePackage : ∀ deps package,
    Mirrors (Session.mapAgent f) (c'.clonePackage deps package) (c.clonePackage deps package)
  convert : Mirrors (Session.mapAgent f) c'.convert c.convert
  contents : ∀ s, c.contents (s.mapAgent f) = ((c'.contents s).1, (c'.contents s).2.mapAgent f)
  restore : ∀ summary, Mirrors (Session.mapAgent f) (c'.restore summary) (c.restore summary)

/-- The first arbiter does what the second does, and knows more. -/
structure Arbiter.Lifts (f : σ → τ) (a' : Arbiter σ) (a : Arbiter τ) : Prop where
  installable : ∀ candidates,
    Mirrors (Session.mapAgent f) (a'.installable candidates) (a.installable candidates)

/-! ### The parts of a run -/

theorem mirrors_onWorld (x : Step World ε α) :
    Mirrors (Session.mapAgent f) (Session.onWorld x) (Session.onWorld x) := ⟨fun _ => rfl⟩

theorem mirrors_sessionLog (level : Level) (source : Source) (message : String) :
    Mirrors (ε := ε) (Session.mapAgent f) (Session.log level source message)
      (Session.log level source message) := ⟨fun _ => rfl⟩

namespace Cloner.Lifts

variable {c' : Cloner σ} {c : Cloner τ} (hc : c'.Lifts f c)

include hc

theorem saveContents (path : Path) :
    Mirrors (Session.mapAgent f) (c'.saveContents path) (c.saveContents path) := by
  refine .bind ⟨fun s => ?_⟩ fun summary =>
    .bind (mirrors_onWorld (summary.save path)) fun _ => mirrors_sessionLog ..
  show (Except.ok (c.contents (s.mapAgent f)).1, (c.contents (s.mapAgent f)).2) = _
  rw [hc.contents]

theorem restoreContents (path : Path) :
    Mirrors (Session.mapAgent f) (c'.restoreContents path) (c.restoreContents path) :=
  .bind (mirrors_onWorld (Summary.load path)) fun _ =>
    .bind (.mapError (hc.restore _) _) fun _ => mirrors_sessionLog ..

end Cloner.Lifts

namespace Selection

variable {a' : Arbiter σ} {a : Arbiter τ} (ha : a'.Lifts f a)

include ha

theorem mirrors_ask (r : Requirement) (candidates : List Path) :
    Mirrors (Session.mapAgent f) (ask a' r candidates) (ask a r candidates) :=
  .mapError (.onError (ha.installable _) fun _ => mirrors_sessionLog ..) _

theorem mirrors_choose (r : Requirement) (candidates : List Path) :
    Mirrors (Session.mapAgent f) (choose a' r candidates) (choose a r candidates) := by
  rw [choose_eq, choose_eq]
  exact .bind (mirrors_sessionLog ..) fun _ => .bind (mirrors_ask ha ..) fun _ =>
    .bind (mirrors_onWorld _) fun _ => .ofExcept _

end Selection

namespace Resolution

/-- The progress in which less is known. -/
def Progress.mapAgent (f : σ → τ) (p : Progress σ) : Progress τ := ⟨p.session.mapAgent f, p.cache⟩

/-- The state in which less is known. -/
def RunState.mapAgent (f : σ → τ) (s : RunState σ) : RunState τ := ⟨s.graph, s.progress.mapAgent f⟩

/-- The collaborators of the first context do what those of the second do, and know more. -/
structure Context.Lifts (f : σ → τ) (ctx' : Context σ) (ctx : Context τ) : Prop where
  cloner : ctx'.cloner.Lifts f ctx.cloner
  arbiter : ctx'.arbiter.Lifts f ctx.arbiter
  manifest : ctx'.manifest = ctx.manifest
  outDir : ctx'.outDir = ctx.outDir
  cloneDeps : ctx'.cloneDeps = ctx.cloneDeps

theorem mirrors_onSession {x : Step (Session σ) Error α} {y : Step (Session τ) Error α}
    (h : Mirrors (Session.mapAgent f) x y) :
    Mirrors (Progress.mapAgent f) (Progress.onSession x) (Progress.onSession y) :=
  h.within (fun _ => rfl) fun _ _ => rfl

theorem mirrors_onProgress {x : Step (Progress σ) Error α} {y : Step (Progress τ) Error α}
    (h : Mirrors (Progress.mapAgent f) x y) :
    Mirrors (RunState.mapAgent f) (RunState.onProgress x) (RunState.onProgress y) :=
  h.within (fun _ => rfl) fun _ _ => rfl

theorem mirrors_progressLog (level : Level) (message : String) :
    Mirrors (Progress.mapAgent f) (Progress.log level message) (Progress.log level message) :=
  mirrors_onSession (mirrors_sessionLog ..)

theorem mirrors_runLog (level : Level) (message : String) :
    Mirrors (RunState.mapAgent f) (RunState.log level message) (RunState.log level message) :=
  mirrors_onProgress (mirrors_onSession (mirrors_sessionLog ..))

theorem mirrors_logFailure (id : NodeId) (reason : String) :
    Mirrors (RunState.mapAgent f) (logFailure id reason) (logFailure id reason) := by
  refine .bind (.asks fun _ => rfl) fun q => ?_
  match q with
  | (none, _) => exact .pure _
  | (some n, dependents) => exact .bind (mirrors_runLog ..) fun _ => mirrors_runLog ..

theorem mirrors_fail (id : NodeId) (n : Node) (e : Error) :
    Mirrors (RunState.mapAgent f) (fail id n e) (fail id n e) := by
  unfold fail
  -- the branches depend on the error alone, which is the same for both
  cases e.isFatal with
  | true => exact .fail e
  | false =>
    dsimp only
    cases (failureOutcome id n e).isHard with
    | true => exact .bind (mirrors_logFailure ..) fun _ => .pure _
    | false => exact .pure _

theorem mirrors_judge (stopOnFailure : Bool) (report : Report) :
    Mirrors (RunState.mapAgent f) (judge stopOnFailure report) (judge stopOnFailure report) := by
  unfold judge
  cases stopOnFailure && report.hasHardFailures with
  | true => exact .bind (.asks fun _ => rfl) fun _ => .fail _
  | false => exact .pure _

namespace Context.Lifts

variable {ctx' : Context σ} {ctx : Context τ} (h : ctx'.Lifts f ctx)

include h

theorem findProviders (n : Node) :
    Mirrors (Session.mapAgent f) (findProviders ctx' n) (findProviders ctx n) := by
  refine .bind (mirrors_sessionLog ..) fun _ => .bind (.mapError (.onError ?_ ?_) _) fun _ => .pure _
  · exact .bind (h.cloner.whatProvides _) fun _ => .ofExcept _
  · exact fun _ => mirrors_sessionLog ..

theorem fetch (package : String) :
    Mirrors (Progress.mapAgent f) (fetch ctx' package) (fetch ctx package) := by
  unfold Resolution.fetch
  rw [h.cloneDeps]
  exact .bind (mirrors_onSession (.mapError (h.cloner.clonePackage ..) _)) fun _ =>
    .bind (.modify fun _ => rfl) fun _ => mirrors_progressLog ..

theorem fetchMissing (packages : List String) :
    Mirrors (Progress.mapAgent f) (fetchMissing ctx' packages) (fetchMissing ctx packages) := by
  induction packages with
  | nil => exact .pure _
  | cons package rest ih =>
    refine .bind (.asks fun _ => rfl) fun fetched => ?_
    cases fetched with
    | true => exact ih
    | false => exact .bind (h.fetch package) fun _ => ih

theorem chooseAmong (r : Requirement) (all : List Candidate) :
    Mirrors (Session.mapAgent f) (chooseAmong ctx' r all) (chooseAmong ctx r all) := by
  refine .bind (Selection.mirrors_choose h.arbiter ..) fun chosen => ?_
  cases all.find? (·.rpm.sameAs chosen) with
  | none => exact .fail _
  | some c => exact .pure _

theorem choose (r : Requirement) (all : List Candidate) :
    Mirrors (Session.mapAgent f) (choose ctx' r all) (choose ctx r all) := by
  match all with
  | [] => exact h.chooseAmong r []
  | [c] => exact .pure c
  | c :: d :: rest => exact h.chooseAmong r (c :: d :: rest)

theorem settle (n : Node) (c : Candidate) :
    Mirrors (Progress.mapAgent f) (settle ctx' n c) (settle ctx n c) := by
  refine .bind (.asks fun _ => rfl) fun prebuilt => ?_
  have hend (fromToolchain : Bool) (message : String) : Mirrors (Progress.mapAgent f)
      (Progress.log .info message >>= fun _ =>
        pure (n.resolved c.rpm fromToolchain) : Step (Progress σ) Error Node)
      (Progress.log .info message >>= fun _ => pure (n.resolved c.rpm fromToolchain)) :=
    .bind (mirrors_progressLog ..) fun _ => .pure _
  dsimp only
  rw [h.manifest]
  cases ctx.manifest.isPrebuiltToolchain c.rpm prebuilt with
  | true => exact .bind (mirrors_progressLog ..) fun _ => hend ..
  | false => exact hend ..

theorem resolveNode (n : Node) :
    Mirrors (Progress.mapAgent f) (resolveNode ctx' n) (resolveNode ctx n) := by
  by_cases hn : n.state = .unresolved
  · rw [resolveNode_eq ctx' hn, resolveNode_eq ctx hn]
    unfold resolveFrom
    rw [h.outDir]
    exact .bind (mirrors_progressLog ..) fun _ =>
      .bind (mirrors_onSession (h.findProviders _)) fun _ =>
        .bind (h.fetchMissing _) fun _ =>
          .bind (mirrors_onSession (h.choose ..)) fun _ => h.settle n _
  · rw [resolveNode_of_resolved ctx' hn, resolveNode_of_resolved ctx hn]
    exact .fail _

/-! ### Whole runs -/

theorem resolveAt (id : NodeId) (n : Node) :
    Mirrors (RunState.mapAgent f) (resolveAt ctx' id n) (resolveAt ctx id n) := by
  rw [resolveAt_eq, resolveAt_eq]
  refine .bind (.outcome (mirrors_onProgress (h.resolveNode n))) fun r => ?_
  cases r with
  | ok n' => exact .bind (.modify fun _ => rfl) fun _ => .pure _
  | error e => exact mirrors_fail ..

theorem resolveNodes (ids : List NodeId) :
    Mirrors (RunState.mapAgent f) (resolveNodes ctx' ids) (resolveNodes ctx ids) := by
  induction ids with
  | nil => exact .pure _
  | cons id rest ih =>
    refine .bind (.asks fun _ => rfl) fun n? => ?_
    cases n? with
    | none => exact ih
    | some n => exact .bind (h.resolveAt id n) fun _ => .bind ih fun _ => .pure _

theorem resolveUnresolved :
    Mirrors (RunState.mapAgent f) (resolveUnresolved ctx') (resolveUnresolved ctx) :=
  .bind (.modify fun _ => rfl) fun _ => .bind (.asks fun _ => rfl) fun _ =>
    .bind (mirrors_runLog ..) fun _ => .bind (h.resolveNodes _) fun _ =>
      .bind (.asks fun _ => rfl) fun _ => .bind (mirrors_runLog ..) fun _ => .pure _

theorem restoreFrom (path : Path) :
    Mirrors (RunState.mapAgent f) (restoreFrom ctx' path) (restoreFrom ctx path) := by
  refine .bind (mirrors_runLog ..) fun _ => .bind (mirrors_onProgress (mirrors_onSession ?_))
    fun _ => .pure _
  exact .onError (h.cloner.restoreContents path) fun _ => mirrors_sessionLog ..

theorem saveTo (path : Option Path) :
    Mirrors (RunState.mapAgent f) (saveTo ctx' path) (saveTo ctx path) := by
  cases path with
  | none => exact .pure _
  | some path =>
    exact mirrors_onProgress (mirrors_onSession
      (.onError (h.cloner.saveContents path) fun _ => mirrors_sessionLog ..))

theorem provision (inputSummary outputSummary : Option Path) :
    Mirrors (RunState.mapAgent f) (provision ctx' inputSummary outputSummary)
      (provision ctx inputSummary outputSummary) := by
  cases inputSummary with
  | none => exact .bind h.resolveUnresolved fun _ => .bind (h.saveTo outputSummary) fun _ => .pure _
  | some path =>
    exact .bind (h.restoreFrom path) fun _ => .bind (h.saveTo outputSummary) fun _ => .pure _

/-- A run with collaborators that know more is the run with the others. -/
theorem resolveGraph (options : RunOptions) :
    Mirrors (RunState.mapAgent f) (resolveGraph ctx' options) (resolveGraph ctx options) :=
  .bind (h.provision ..) fun _ => mirrors_judge ..

end Context.Lifts

end Resolution

end RpmProvision
