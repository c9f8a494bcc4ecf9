/-
When a run writes its graph.

A run first gathers: it reads its inputs and, if a node wants an RPM, makes a cloner and resolves the
graph with it. Then it commits: it writes the graph and makes a repository of the packages.

* **`gather`**, **`commit`** — the two parts of a run;
* **`hasWork_iff`** — whether there is work is seen from the inputs;
* **`Graph.save_cases`** — a graph is written as a whole, or nothing is.
-/
import RpmProvision.Proofs.Fetch
import RpmProvision.Proofs.Resolution.Errors
import RpmProvision.Proofs.Visits

namespace RpmProvision

open Step Resolution

variable {τ α : Type}

/-! ### The two parts of a run -/

/-- What a run does before it writes: it reads its inputs, and makes a cloner and resolves the graph
with it if a node wants an RPM. -/
def gather (config : FetchConfig) (arbiter : Arbiter τ)
    (makeCloner : ClonerConfig → Step (Session τ) Error (Cloner τ)) :
    Step (Session τ) Error (Option (Cloner τ × Report) × Graph) := do
  let (g, manifest) ← readInputs config
  if g.stats.unresolved = 0 then do
    Session.log .info .run "No unresolved packages to cache"
    pure (none, g)
  else do
    let (cloner, report, resolved) ← prepare config arbiter makeCloner g manifest
    pure (some (cloner, report), resolved)

/-- How a run ends once it has a graph to write. -/
def commit (config : FetchConfig) :
    Option (Cloner τ × Report) × Graph → Step (Session τ) Error (Option Report)
  | (none, g) => do
    g.save config.outputGraph
    pure none
  | (some (cloner, report), g) => deliver config cloner report g

variable {config : FetchConfig} {arbiter : Arbiter τ}
  {makeCloner : ClonerConfig → Step (Session τ) Error (Cloner τ)} {s : Session τ}

theorem fetchPackages_eq :
    fetchPackages config arbiter makeCloner
      = gather config arbiter makeCloner >>= commit config := by
  unfold fetchPackages gather
  rw [bind_assoc]
  refine congrArg _ (funext fun inputs => ?_)
  by_cases h : inputs.1.stats.unresolved = 0
  · simp only [h, if_true, bind_assoc, pure_bind, commit]
  · simp only [h, if_false, bind_assoc, pure_bind, commit, prepare, fetchWith, deliver]

/-! ### Reading -/

theorem Graph.fails_load (path : Path) : Fails (fun e => e.kind = .graphRead) (Graph.load path) := by
  refine .bind (.of_ok fun _ => ⟨_, rfl⟩) fun _ => .bind ?_ fun text => ?_
  · exact .mapError (P := fun _ => True) ⟨fun _ _ _ => trivial⟩ fun _ _ => rfl
  · refine ⟨fun s e he => ?_⟩
    rw [ofExcept_apply] at he
    cases hparse : Graph.parse text with
    | error e' =>
      rw [hparse] at he
      cases he
      rfl
    | ok g =>
      rw [hparse] at he
      cases he

theorem Manifest.fails_load (path : Option Path) :
    Fails (fun e => e.kind = .manifestRead) (Manifest.load path) := by
  cases path with
  | none => exact .bind (.of_ok fun _ => ⟨_, rfl⟩) fun _ => .pure _
  | some path =>
    refine .bind ?_ fun text => .bind (.of_ok fun _ => ⟨_, rfl⟩) fun _ => .pure _
    exact .mapError (P := fun _ => True) ⟨fun _ _ _ => trivial⟩ fun _ _ => rfl

/-- A graph that is read is sound. -/
theorem Graph.sound_of_load {path : Path} {w w' : World} {g : Graph}
    (h : Graph.load path w = (.ok g, w')) : Graph.Sound g := by
  obtain ⟨_, w₁, _, h⟩ := bind_eq_ok.mp h
  obtain ⟨text, w₂, _, h⟩ := bind_eq_ok.mp h
  rw [ofExcept_apply] at h
  cases hparse : Graph.parse text with
  | error e =>
    rw [hparse] at h
    cases h
  | ok g' =>
    rw [hparse] at h
    cases h
    exact Graph.sound_of_parse hparse

/-- The inputs of a run can be read, and in the graph a node wants an RPM once the remote nodes have
taken their slots. -/
def HasWork (config : FetchConfig) (w : World) : Prop :=
  ∃ g w₁ m w₂, Graph.load config.inputGraph w = (.ok g, w₁)
    ∧ Manifest.load config.manifest w₁ = (.ok m, w₂)
    ∧ (Graph.mergeRemotes ⟨g, []⟩).2.graph.unresolvedRunNodes ≠ []

/-- Once both inputs are read, the remote nodes can take their slots. -/
theorem readInputs_of_load {w w₁ w₂ : World} {g : Graph} {m : Manifest}
    (hg : Graph.load config.inputGraph w = (.ok g, w₁))
    (hm : Manifest.load config.manifest w₁ = (.ok m, w₂)) :
    ∃ w₃, readInputs config w = (.ok ((Graph.mergeRemotes ⟨g, []⟩).2.graph, m), w₃) := by
  have hsound : Graph.Sound g := Graph.sound_of_load hg
  obtain ⟨events, hread⟩ := readInputs_apply hsound hg hm
  obtain ⟨events', hmerge⟩ := Graph.mergeRemotes_apply hsound []
  rw [hmerge]
  exact ⟨_, hread⟩

theorem hasWork_iff {w : World} : HasWork config w ↔
    ∃ g m w', readInputs config w = (.ok (g, m), w') ∧ g.unresolvedRunNodes ≠ [] := by
  constructor
  · rintro ⟨g, w₁, m, w₂, hg, hm, hwork⟩
    obtain ⟨w₃, hread⟩ := readInputs_of_load hg hm
    exact ⟨_, m, w₃, hread, hwork⟩
  · rintro ⟨g, m, w', hread, hwork⟩
    obtain ⟨g₀, w₁, hg, hrest⟩ := bind_eq_ok.mp hread
    obtain ⟨m', w₂, hm, -⟩ := bind_eq_ok.mp hrest
    obtain ⟨w₃, hread'⟩ := readInputs_of_load hg hm
    cases hread.symm.trans hread'
    exact ⟨g₀, w₁, m, w₂, hg, hm, hwork⟩

/-- If the inputs of a run cannot be read, it is the graph or the manifest that cannot. -/
theorem readInputs_eq_error {w w' : World} {e : Error} (h : readInputs config w = (.error e, w')) :
    (∃ w₁, Graph.load config.inputGraph w = (.error e, w₁))
      ∨ ∃ g w₁ w₂, Graph.load config.inputGraph w = (.ok g, w₁)
        ∧ Manifest.load config.manifest w₁ = (.error e, w₂) := by
  rcases hg : Graph.load config.inputGraph w with ⟨e' | g, w₁⟩
  · rcases bind_eq_error.mp h with he | ⟨g, w₂, hok, -⟩
    · exact .inl ⟨w', hg.symm.trans he⟩
    · cases hg.symm.trans hok
  · rcases hm : Manifest.load config.manifest w₁ with ⟨e' | m, w₂⟩
    · rcases bind_eq_error.mp h with he | ⟨g', w₃, hok, hrest⟩
      · cases hg.symm.trans he
      · cases hg.symm.trans hok
        rcases bind_eq_error.mp hrest with he | ⟨m', w₄, hok', -⟩
        · exact .inr ⟨g, w₁, w', rfl, he⟩
        · cases hm.symm.trans hok'
    · obtain ⟨w₃, hread⟩ := readInputs_of_load hg hm
      cases h.symm.trans hread

/-! ### Gathering -/

theorem gather_of_readInputs_error {e : Error} {w : World}
    (h : readInputs config s.world = (.error e, w)) :
    gather config arbiter makeCloner s = (.error e, ⟨w, s.agent⟩) := by
  unfold gather
  exact Session.onWorld_bind_of_error h _

/-- The event that tells that there is no work. -/
def idleEvent : Event := ⟨.info, .run, "No unresolved packages to cache"⟩

theorem gather_of_idle {g : Graph} {m : Manifest} {w : World}
    (h : readInputs config s.world = (.ok (g, m), w)) (hnil : g.unresolvedRunNodes = []) :
    gather config arbiter makeCloner s = (.ok (none, g), ⟨w.record idleEvent, s.agent⟩) := by
  unfold gather
  refine (Session.onWorld_bind_of_ok h _).trans ?_
  dsimp only
  rw [if_pos (Graph.stats_unresolved_eq_zero_iff.mpr hnil)]
  rfl

theorem gather_of_work (arbiter : Arbiter τ)
    (makeCloner : ClonerConfig → Step (Session τ) Error (Cloner τ)) {g : Graph} {m : Manifest}
    {w : World}
    (h : readInputs config s.world = (.ok (g, m), w)) (hwork : g.unresolvedRunNodes ≠ []) :
    gather config arbiter makeCloner s = (prepare config arbiter makeCloner g m >>= fun r =>
      pure (some (r.1, r.2.1), r.2.2)) ⟨w, s.agent⟩ := by
  unfold gather
  refine (Session.onWorld_bind_of_ok h _).trans ?_
  dsimp only
  rw [if_neg (mt Graph.stats_unresolved_eq_zero_iff.mp hwork)]

/-- The event that announces work. -/
def workEvent : Event := ⟨.info, .run, "Found unresolved packages to cache, downloading packages"⟩

/-- What a node is resolved with, once a cloner was made. -/
def contextOf (config : FetchConfig) (arbiter : Arbiter τ) (m : Manifest) (cloner : Cloner τ) :
    Context τ :=
  { cloner, arbiter, manifest := m, outDir := config.cloner.outDir, cloneDeps := config.cloneDeps }

theorem prepare_of_error {g : Graph} {m : Manifest} {e : Error} {s₁ : Session τ}
    (h : makeCloner config.cloner ⟨s.world.record workEvent, s.agent⟩ = (.error e, s₁)) :
    prepare config arbiter makeCloner g m s = (.error (e.asKind .clonerSetup), s₁) := by
  unfold prepare
  rw [bind_apply]
  show andThen _ (.ok (), (⟨s.world.record workEvent, s.agent⟩ : Session τ)) = _
  rw [andThen_ok, bind_apply, mapError_apply, h]
  rfl

theorem prepare_of_ok {g : Graph} {m : Manifest} {cloner : Cloner τ} {s₁ : Session τ}
    (h : makeCloner config.cloner ⟨s.world.record workEvent, s.agent⟩ = (.ok cloner, s₁)) :
    prepare config arbiter makeCloner g m s
      = ((resolveWith (contextOf config arbiter m cloner) config.runOptions g s₁).1.map fun r =>
          (cloner, r.1, r.2),
        (resolveWith (contextOf config arbiter m cloner) config.runOptions g s₁).2) := by
  unfold prepare
  rw [bind_apply]
  show andThen _ (.ok (), (⟨s.world.record workEvent, s.agent⟩ : Session τ)) = _
  rw [andThen_ok, bind_apply, mapError_apply, h]
  show andThen _ (resolveWith (contextOf config arbiter m cloner) config.runOptions g s₁) = _
  rcases resolveWith (contextOf config arbiter m cloner) config.runOptions g s₁ with ⟨e | r, s₂⟩
  · rfl
  · rfl

theorem fails_resolveWith (ctx : Context τ) (options : RunOptions) (g : Graph) :
    Fails EndsRun (resolveWith ctx options g) := by
  refine ⟨fun s e he => (fails_resolveGraph ctx options).of_error ⟨g, s, .empty⟩ e ?_⟩
  unfold resolveWith at he
  rcases hrun : resolveGraph ctx options ⟨g, s, .empty⟩ with ⟨e' | report, final⟩
  · rw [hrun] at he
    cases he
    rfl
  · rw [hrun] at he
    cases he

/-! ### Committing -/

/-- To replace a file either fails and changes nothing, or puts the octets where a rename to the path
ends. -/
theorem World.replaceFile_cases (path : Path) (octets : Bytes) (w : World) :
    (∃ fault, replaceFile path octets w = (.error fault, w))
      ∨ ∃ l, w.disk.renameTarget path = .ok l ∧ replaceFile path octets w
        = (.ok (), { w with
          disk := w.disk.renew l (.file octets)
          logFile := w.logFile.filter (·.location ≠ l) }) := by
  unfold replaceFile Disk.replace
  cases w.disk.writable ((Disk.besideDir path).child Disk.besideName) with
  | error fault => exact .inl ⟨fault, rfl⟩
  | ok _ =>
    cases w.disk.renameTarget path with
    | error fault => exact .inl ⟨fault, rfl⟩
    | ok l => exact .inr ⟨l, rfl, rfl⟩

/-- The event that announces that a graph is written. -/
def writingEvent (path : Path) : Event := ⟨.debug, .graphFile, s!"Writing graph to {path.text}"⟩

/-- To save a graph either fails and leaves the disk alone, or replaces the file. -/
theorem Graph.save_cases (g : Graph) (path : Path) (w : World) :
    (∃ detail, g.save path w = (.error ⟨.graphWrite, detail⟩, w.record (writingEvent path)))
      ∨ ∃ l, (w.record (writingEvent path)).disk.renameTarget path = .ok l
        ∧ g.save path w = (.ok (), { w.record (writingEvent path) with
          disk := (w.record (writingEvent path)).disk.renew l (.file (Text.Utf8.encode g.render))
          logFile := (w.record (writingEvent path)).logFile.filter (·.location ≠ l) }) := by
  unfold Graph.save
  rw [bind_apply]
  show (∃ detail, andThen _ (.ok (), w.record (writingEvent path)) = _)
    ∨ ∃ l, _ ∧ andThen _ (.ok (), w.record (writingEvent path)) = _
  rw [andThen_ok, mapError_apply]
  rcases World.replaceFile_cases path (Text.Utf8.encode g.render) (w.record (writingEvent path))
    with ⟨fault, h⟩ | ⟨l, hl, h⟩
  · rw [h]
    exact .inl ⟨_, rfl⟩
  · rw [h]
    exact .inr ⟨l, hl, rfl⟩

/-- A graph that is saved stands where the rename to the path ends. Elsewhere nothing changes but
through the log, which does not go on in the file. -/
theorem Graph.stands_of_save {g : Graph} {path : Path} {w w' : World}
    (h : g.save path w = (.ok (), w')) :
    ∃ l, (w.record (writingEvent path)).disk.renameTarget path = .ok l
      ∧ w'.disk.entryAt l = some (.file (Text.Utf8.encode g.render))
      ∧ (∀ f, w'.logFile = some f → f.location ≠ l)
      ∧ (∀ k, k ≠ l → w'.disk.entryAt k = (w.record (writingEvent path)).disk.entryAt k)
      ∧ ∀ f, w'.logFile = some f → (w.record (writingEvent path)).logFile = some f := by
  rcases Graph.save_cases g path w with ⟨detail, hsave⟩ | ⟨l, htarget, hsave⟩
  · cases h.symm.trans hsave
  · cases h.symm.trans hsave
    obtain ⟨e, -, hr, -, -, -, hne⟩ := Disk.renameTarget_eq_ok_iff.mp htarget
    rw [← Disk.entryAt_of_resolveNames hr] at hne
    refine ⟨l, htarget, Disk.entryAt_put_self _ (Disk.ne_nil_of_ne_directory hne) _, ?_, ?_, ?_⟩
    · intro f hf
      have hkept := (Option.filter_eq_some_iff.mp hf).2
      simpa using hkept
    · exact fun k hk => Disk.entryAt_put_of_ne _ hk _
    · exact fun f hf => (Option.filter_eq_some_iff.mp hf).1

/-- The event that tells of a written graph. -/
def wroteEvent (config : FetchConfig) (g : Graph) : Event :=
  ⟨.info, .run, s!"Wrote resolved graph to {config.outputGraph.text} "
    ++ s!"({g.stats.unresolved} run nodes still unresolved)"⟩

theorem commit_of_error {made : Option (Cloner τ × Report)} {g : Graph} {e : Error} {w : World}
    (h : g.save config.outputGraph s.world = (.error e, w)) :
    commit config (made, g) s = (.error e, ⟨w, s.agent⟩) := by
  cases made with
  | none => exact Session.onWorld_bind_of_error h _
  | some r => exact Session.onWorld_bind_of_error h _

theorem commit_none {g : Graph} {w : World}
    (h : g.save config.outputGraph s.world = (.ok (), w)) :
    commit config (none, g) s = (.ok none, ⟨w, s.agent⟩) :=
  Session.onWorld_bind_of_ok h _

theorem commit_some {cloner : Cloner τ} {report : Report} {g : Graph} {w : World}
    {answer : Except Error Unit} {t : Session τ}
    (h : g.save config.outputGraph s.world = (.ok (), w))
    (hconvert : cloner.convert ⟨w.record (wroteEvent config g), s.agent⟩ = (answer, t)) :
    commit config (some (cloner, report), g) s
      = ((answer.mapError (Error.asKind .repositoryConversion)).map fun _ => some report, t) := by
  refine (Session.onWorld_bind_of_ok h _).trans ?_
  rw [bind_apply]
  show andThen _ (.ok (), (⟨w.record (wroteEvent config g), s.agent⟩ : Session τ)) = _
  rw [andThen_ok, bind_apply, mapError_apply, hconvert]
  cases answer <;> rfl

end RpmProvision
