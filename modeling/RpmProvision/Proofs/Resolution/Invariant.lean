/-
What a run keeps, step by step.

A run over nodes does four things to its progress: it logs, it looks up providers, it gets packages
that it has not got, and it asks the arbiter. What each of these keeps, the run keeps, whether it
ends with a report or with an error.

* **`Kept`** — a property of the progress that each of the four keeps;
* **`Kept.resolveGraph`**, **`Kept.resolveGraph_of_inputSummary`** — a run keeps it;
* **`Cache.Grows`** — a cache loses and changes nothing that it knows.
-/
import RpmProvision.Proofs.Resolution.Outcomes

namespace RpmProvision.Resolution

open Step

variable {τ α : Type}

/-! ### Caches that grow -/

namespace Cache

/-- The second cache says of every package in the first what the first says of it. -/
def Grows (c c' : Cache) : Prop :=
  ∀ package, c.isFetched package →
    c'.isFetched package ∧ c'.isPrebuilt package = c.isPrebuilt package

theorem Grows.refl (c : Cache) : Grows c c := fun _ h => ⟨h, rfl⟩

theorem Grows.trans {c c' c'' : Cache} (h : Grows c c') (h' : Grows c' c'') : Grows c c'' := by
  intro package hp
  obtain ⟨hp', heq⟩ := h package hp
  obtain ⟨hp'', heq'⟩ := h' package hp'
  exact ⟨hp'', heq'.trans heq⟩

theorem grows_record {c : Cache} {package : String} (h : c.isFetched package = false)
    (prebuilt : Bool) : Grows c (c.record package prebuilt) := by
  intro p hp
  have hne : p ≠ package := by
    rintro rfl
    rw [h] at hp
    cases hp
  constructor
  · simp [isFetched_record, hp]
  · rw [isPrebuilt_record, if_neg hne]

end Cache

/-! ### Getting one package -/

theorem fetch_of_ok {ctx : Context τ} {package : String} {p : Progress τ} {prebuilt : Bool}
    {s : Session τ} (h : ctx.cloner.clonePackage ctx.cloneDeps package p.session = (.ok prebuilt, s)) :
    ∃ e, fetch ctx package p
      = (.ok (), ⟨⟨s.world.record e, s.agent⟩, p.cache.record package prebuilt⟩) := by
  unfold fetch
  rw [bind_apply, Progress.onSession, within_apply, mapError_apply, h]
  exact ⟨_, rfl⟩

theorem fetch_of_error {ctx : Context τ} {package : String} {p : Progress τ} {e : Error}
    {s : Session τ} (h : ctx.cloner.clonePackage ctx.cloneDeps package p.session = (.error e, s)) :
    fetch ctx package p = (.error (fetchError package e), ⟨s, p.cache⟩) := by
  unfold fetch
  rw [bind_apply, Progress.onSession, within_apply, mapError_apply, h]
  rfl

theorem fetchMissing_of_fetched {ctx : Context τ} {package : String} {p : Progress τ}
    (h : p.cache.isFetched package = true) (rest : List String) :
    fetchMissing ctx (package :: rest) p = fetchMissing ctx rest p := by
  rw [fetchMissing, bind_apply, asks_apply, andThen_ok, h]
  rfl

theorem fetchMissing_of_missing {ctx : Context τ} {package : String} {p : Progress τ}
    (h : p.cache.isFetched package = false) (rest : List String) :
    fetchMissing ctx (package :: rest) p
      = andThen (fun _ => fetchMissing ctx rest) (fetch ctx package p) := by
  rw [fetchMissing, bind_apply, asks_apply, andThen_ok, h]
  rfl

/-! ### Properties that a run keeps -/

/-- Each of the things that a run does keeps the property of its progress. -/
structure Kept (ctx : Context τ) (P : Progress τ → Prop) : Prop where
  record : ∀ c e s, P ⟨s, c⟩ → P ⟨⟨s.world.record e, s.agent⟩, c⟩
  lookup : ∀ c r, Maintains (fun s => P ⟨s, c⟩) (ctx.cloner.whatProvides r)
  fetch : ∀ package p, p.cache.isFetched package = false → P p → P (fetch ctx package p).2
  judge : ∀ c rpms, Maintains (fun s => P ⟨s, c⟩) (ctx.arbiter.installable rpms)

namespace Kept

variable {ctx : Context τ} {P : Progress τ → Prop}

theorem onSession {x : Step (Session τ) Error α} (h : ∀ c, Maintains (fun s => P ⟨s, c⟩) x) :
    Maintains P (Progress.onSession x) := .within fun p => (h p.cache).of_run p.session

theorem onProgress {x : Step (Progress τ) Error α} (h : Maintains P x) :
    Maintains (fun t : RunState τ => P t.progress) (RunState.onProgress x) :=
  .within fun t => h.of_run t.progress

/-- A property of the session that the log, the cloner and the arbiter keep. -/
theorem of_session {P : Session τ → Prop}
    (hrecord : ∀ e s, P s → P ⟨s.world.record e, s.agent⟩)
    (hlookup : ∀ r, Maintains P (ctx.cloner.whatProvides r))
    (hclone : ∀ package, Maintains P (ctx.cloner.clonePackage ctx.cloneDeps package))
    (hjudge : ∀ rpms, Maintains P (ctx.arbiter.installable rpms)) :
    Kept ctx fun p => P p.session where
  record _ e s := hrecord e s
  lookup _ r := ⟨(hlookup r).of_run⟩
  judge _ rpms := ⟨(hjudge rpms).of_run⟩
  fetch package p _ hp := by
    have hs := (hclone package).of_run p.session hp
    rcases hr : ctx.cloner.clonePackage ctx.cloneDeps package p.session with ⟨e | prebuilt, s⟩
    · rw [fetch_of_error hr]
      rw [hr] at hs
      exact hs
    · obtain ⟨e, hfetch⟩ := fetch_of_ok hr
      rw [hfetch]
      rw [hr] at hs
      exact hrecord e s hs

variable (h : Kept ctx P)

include h

theorem sessionLog (c : Cache) (level : Level) (source : Source) (message : String) :
    Maintains (fun s => P ⟨s, c⟩) (Session.log (ε := Error) level source message) :=
  ⟨fun s => h.record c ⟨level, source, message⟩ s⟩

theorem progressLog (level : Level) (message : String) :
    Maintains P (Progress.log level message) := onSession fun c => h.sessionLog c ..

theorem runLog (level : Level) (message : String) :
    Maintains (fun t : RunState τ => P t.progress) (RunState.log level message) :=
  onProgress (onSession fun c => h.sessionLog c ..)

theorem findProviders (c : Cache) (n : Node) :
    Maintains (fun s => P ⟨s, c⟩) (findProviders ctx n) := by
  refine .bind (h.sessionLog c ..) fun _ => .bind (.mapError (.onError ?_ ?_)) fun _ => .pure _
  · exact .bind (h.lookup c _) fun _ => .ofExcept _
  · exact fun _ => h.sessionLog c ..

theorem fetchMissing (packages : List String) : Maintains P (fetchMissing ctx packages) := by
  refine ⟨fun p hp => ?_⟩
  induction packages generalizing p with
  | nil => exact hp
  | cons package rest ih =>
    cases hgot : p.cache.isFetched package with
    | true =>
      rw [fetchMissing_of_fetched hgot]
      exact ih p hp
    | false =>
      have hp' := h.fetch package p hgot hp
      rw [fetchMissing_of_missing hgot]
      generalize Resolution.fetch ctx package p = r at hp' ⊢
      match r with
      | (.error e, p') => exact hp'
      | (.ok _, p') => exact ih p' hp'

theorem chooseAmong (c : Cache) (r : Requirement) (all : List Candidate) :
    Maintains (fun s => P ⟨s, c⟩) (chooseAmong ctx r all) := by
  refine .bind ?_ fun chosen => ?_
  · rw [Selection.choose_eq]
    refine .bind (h.sessionLog c ..) fun _ => .bind (.mapError (.onError (h.judge c _) fun _ => ?_))
      fun installable => .bind ?_ fun _ => .ofExcept _
    · exact h.sessionLog c ..
    · match installable with
      | [] => exact h.sessionLog c ..
      | [_] => exact .of_eq fun _ => rfl
      | _ :: _ :: _ => exact h.sessionLog c ..
  · cases all.find? (·.rpm.sameAs chosen) with
    | none => exact .fail _
    | some _ => exact .pure _

theorem choose (c : Cache) (r : Requirement) (all : List Candidate) :
    Maintains (fun s => P ⟨s, c⟩) (choose ctx r all) := by
  match all with
  | [] => exact h.chooseAmong c r []
  | [d] => exact .pure d
  | d :: e :: rest => exact h.chooseAmong c r (d :: e :: rest)

theorem settle (n : Node) (c : Candidate) : Maintains P (settle ctx n c) := by
  refine .bind (.asks _) fun prebuilt => ?_
  dsimp only
  have hend (fromToolchain : Bool) (message : String) : Maintains P
      (Progress.log .info message >>= fun _ =>
        pure (n.resolved c.rpm fromToolchain) : Step (Progress τ) Error Node) :=
    .bind (h.progressLog ..) fun _ => .pure _
  cases ctx.manifest.isPrebuiltToolchain c.rpm prebuilt with
  | true => exact .bind (h.progressLog ..) fun _ => hend ..
  | false => exact hend ..

theorem resolveFrom (n : Node) (providers : List String) :
    Maintains P (resolveFrom ctx n providers) :=
  .bind (h.fetchMissing providers) fun _ => .bind (onSession fun c => h.choose c ..) fun _ =>
    h.settle n _

/-- Dealing with a node keeps what its steps keep. -/
theorem resolveNode (n : Node) : Maintains P (resolveNode ctx n) := by
  by_cases hn : n.state = .unresolved
  · rw [resolveNode_eq ctx hn]
    exact .bind (h.progressLog ..) fun _ => .bind (onSession fun c => h.findProviders c n) fun _ =>
      h.resolveFrom n _
  · rw [resolveNode_of_resolved ctx hn]
    exact .fail _

theorem fail (id : NodeId) (n : Node) (e : Error) :
    Maintains (fun t : RunState τ => P t.progress) (fail id n e) := by
  have hlog : Maintains (fun t : RunState τ => P t.progress) (logFailure id e.message) := by
    refine .bind (.asks _) fun q => ?_
    match q with
    | (none, _) => exact .pure _
    | (some n, dependents) => exact .bind (h.runLog ..) fun _ => h.runLog ..
  unfold Resolution.fail
  cases e.isFatal with
  | true => exact .fail e
  | false =>
    dsimp only
    cases (failureOutcome id n e).isHard with
    | true => exact .bind hlog fun _ => .pure _
    | false => exact .pure _

theorem resolveAt (id : NodeId) (n : Node) :
    Maintains (fun t : RunState τ => P t.progress) (resolveAt ctx id n) := by
  rw [resolveAt_eq]
  refine .bind (.outcome (onProgress (h.resolveNode n))) fun r => ?_
  cases r with
  | ok n' => exact .bind (.modify fun _ ht => ht) fun _ => .pure _
  | error e => exact h.fail id n e

theorem resolveNodes (ids : List NodeId) :
    Maintains (fun t : RunState τ => P t.progress) (resolveNodes ctx ids) := by
  induction ids with
  | nil => exact .pure _
  | cons id rest ih =>
    refine .bind (.asks _) fun n? => ?_
    cases n? with
    | none => exact ih
    | some n => exact .bind (h.resolveAt id n) fun _ => .bind ih fun _ => .pure _

/-- A run over nodes keeps the property, if it holds when nothing has been got yet. -/
theorem resolveUnresolved {s : RunState τ} (hs : P ⟨s.progress.session, .empty⟩) :
    P (resolveUnresolved ctx s).2.progress := by
  have hrest : Maintains (fun t : RunState τ => P t.progress) (do
      let unresolved ← Step.asks fun s => s.graph.unresolvedRunNodes
      RunState.log .info s!"Resolving {unresolved.length} unresolved nodes"
      let outcomes ← Resolution.resolveNodes ctx unresolved
      let report : Report := ⟨outcomes, false⟩
      let cloned ← Step.asks fun s => s.progress.cache.size
      RunState.log .info
        (s!"Resolved {report.resolvedCount} nodes ({report.softCount} unresolved implicit, "
          ++ s!"{report.hardFailures.length} failed), cloned {cloned} packages")
      pure report) :=
    .bind (.asks _) fun _ => .bind (h.runLog ..) fun _ => .bind (h.resolveNodes _) fun _ =>
      .bind (.asks _) fun _ => .bind (h.runLog ..) fun _ => .pure _
  exact hrest.of_run ⟨s.graph, ⟨s.progress.session, .empty⟩⟩ hs

theorem saveTo {path : Option Path} (hsave : ∀ c p, path = some p →
    Maintains (fun s => P ⟨s, c⟩) (ctx.cloner.saveContents p)) :
    Maintains (fun t : RunState τ => P t.progress) (saveTo ctx path) := by
  cases path with
  | none => exact .pure _
  | some path =>
    exact onProgress (onSession fun c => .onError (hsave c path rfl) fun _ => h.sessionLog c ..)

theorem finish {options : RunOptions} (hsave : ∀ c p, options.outputSummary = some p →
    Maintains (fun s => P ⟨s, c⟩) (ctx.cloner.saveContents p)) (report : Report) :
    Maintains (fun t : RunState τ => P t.progress) (finish ctx options report) := by
  refine .bind (h.saveTo hsave) fun _ => .of_eq fun t => ?_
  rw [judge_eq]

/-- A whole run keeps the property, if to save what was got keeps it as well. -/
theorem resolveGraph {options : RunOptions} (hsave : ∀ c p, options.outputSummary = some p →
    Maintains (fun s => P ⟨s, c⟩) (ctx.cloner.saveContents p))
    (hin : options.inputSummary = none) {s : RunState τ} (hs : P ⟨s.progress.session, .empty⟩) :
    P (resolveGraph ctx options s).2.progress := by
  have hloop := h.resolveUnresolved hs
  rcases hr : Resolution.resolveUnresolved ctx s with ⟨e | report, s₁⟩
  · rw [resolveGraph_of_resolveUnresolved_error hin hr]
    rw [hr] at hloop
    exact hloop
  · rw [resolveGraph_of_resolveUnresolved hin hr]
    rw [hr] at hloop
    exact (h.finish hsave report).of_run s₁ hloop

/-- The same of a run that takes packages over, if to hand them to the cloner keeps the property. -/
theorem resolveGraph_of_inputSummary {options : RunOptions} {path : Path}
    (hsave : ∀ c p, options.outputSummary = some p →
      Maintains (fun s => P ⟨s, c⟩) (ctx.cloner.saveContents p))
    (hrestore : ∀ c, Maintains (fun s => P ⟨s, c⟩) (ctx.cloner.restoreContents path))
    (hin : options.inputSummary = some path) :
    Maintains (fun t : RunState τ => P t.progress) (Resolution.resolveGraph ctx options) := by
  have hrestored : Maintains (fun t : RunState τ => P t.progress) (restoreFrom ctx path) :=
    .bind (h.runLog ..) fun _ =>
      .bind (onProgress (onSession fun c => .onError (hrestore c) fun _ => h.sessionLog c ..))
        fun _ => .pure _
  unfold Resolution.resolveGraph provision
  rw [hin]
  refine .bind (.bind hrestored fun _ => .bind (h.saveTo hsave) fun _ => .pure _) fun report =>
    .of_eq fun t => ?_
  rw [judge_eq]

end Kept

/-! ### The cache of a run -/

theorem kept_grows (ctx : Context τ) (c : Cache) : Kept ctx fun p => Cache.Grows c p.cache where
  record _ _ _ hc := hc
  lookup _ _ := ⟨fun _ hc => hc⟩
  judge _ _ := ⟨fun _ hc => hc⟩
  fetch package p hgot hc := by
    rcases hclone : ctx.cloner.clonePackage ctx.cloneDeps package p.session with ⟨e | prebuilt, s⟩
    · rw [fetch_of_error hclone]
      exact hc
    · obtain ⟨e, hfetch⟩ := fetch_of_ok hclone
      rw [hfetch]
      exact hc.trans (Cache.grows_record hgot prebuilt)

/-- Once getting the packages of a list has succeeded, all of them have been got. -/
theorem isFetched_of_fetchMissing {ctx : Context τ} {packages : List String} {p p' : Progress τ}
    (h : fetchMissing ctx packages p = (.ok (), p')) : ∀ q ∈ packages, p'.cache.isFetched q := by
  induction packages generalizing p with
  | nil => simp
  | cons package rest ih =>
    -- what the first package has become known as stays known
    have hgrows (p₁ : Progress τ) : Cache.Grows p₁.cache (fetchMissing ctx rest p₁).2.cache :=
      ((kept_grows ctx p₁.cache).fetchMissing rest).of_run p₁ (.refl _)
    intro q hq
    cases hgot : p.cache.isFetched package with
    | true =>
      rw [fetchMissing_of_fetched hgot] at h
      rcases List.mem_cons.mp hq with rfl | hq
      · have hkept := (hgrows p q hgot).1
        rw [h] at hkept
        exact hkept
      · exact ih h q hq
    | false =>
      rw [fetchMissing_of_missing hgot] at h
      rcases hclone : ctx.cloner.clonePackage ctx.cloneDeps package p.session with ⟨e | b, s⟩
      · rw [fetch_of_error hclone] at h
        cases h
      · obtain ⟨e, hfetch⟩ := fetch_of_ok hclone
        rw [hfetch, andThen_ok] at h
        rcases List.mem_cons.mp hq with rfl | hq
        · have hkept := hgrows ⟨⟨s.world.record e, s.agent⟩, p.cache.record q b⟩ q
            (by simp [Cache.isFetched_record])
          rw [h] at hkept
          exact hkept.1
        · exact ih h q hq

end RpmProvision.Resolution
