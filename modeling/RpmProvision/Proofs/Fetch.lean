/-
A run, and a run on its result.

The graph that a run writes can be the input of another run. If all nodes of the first run were
resolved, one expects that the second finds nothing to do and writes the same file again. It does so
unless the first run has made a node pre-built and so left the requirement of the node to another
one that still wants an RPM.

* **`Idle`** — a run that finds nothing to do and writes its input again;
* **`LeavesNothing`** — no node has left its requirement to one that wants an RPM;
* **`idle_again_iff`** — a run on the result of a run is idle exactly in that case.
-/
import RpmProvision.Fetch
import RpmProvision.Proofs.Disk
import RpmProvision.Proofs.Graph.Reread
import RpmProvision.Proofs.Resolution.Effect
import RpmProvision.Proofs.World

namespace RpmProvision

open Step Resolution

variable {τ : Type}

/-! ### Reading -/

theorem Graph.load_apply {path : Path} {w : World} {text : String} {g : Graph}
    (hread : w.Keeps fun d => d.read path = .ok (Text.Utf8.encode text))
    (hparse : Graph.parse text = .ok g) :
    ∃ e, Graph.load path w = (.ok g, w.record e) := by
  refine ⟨⟨.debug, .graphFile, s!"Reading graph from {path.text}"⟩, ?_⟩
  unfold Graph.load
  rw [bind_apply]
  show andThen _ (.ok (), w.record _) = _
  rw [andThen_ok, bind_apply, mapError_apply]
  show andThen _ ((((w.record _).disk.readText path).mapError _, w.record _)) = _
  rw [Disk.readText_of_read (hread.record _).now]
  show ((Graph.parse text).mapError _, _) = _
  rw [hparse]
  rfl

theorem Manifest.load_some {path : Path} {w : World} {text : String}
    (h : w.disk.readText path = .ok text) :
    ∃ e, Manifest.load (some path) w = (.ok (Manifest.parse text), w.record e) := by
  refine ⟨⟨.debug, .manifest,
    s!"Loaded {(Manifest.parse text).size} toolchain RPMs from {path.text}"⟩, ?_⟩
  unfold Manifest.load
  dsimp only
  rw [bind_apply, mapError_apply]
  show andThen _ ((w.disk.readText path).mapError _, w) = _
  rw [h]
  rfl

theorem Manifest.load_apply {path : Option Path} {w : World}
    (h : ∀ p, path = some p → ∃ text, w.disk.readText p = .ok text) :
    ∃ m e, Manifest.load path w = (.ok m, w.record e) := by
  cases path with
  | none => exact ⟨_, _, rfl⟩
  | some p =>
    obtain ⟨text, htext⟩ := h p rfl
    exact ⟨_, Manifest.load_some htext⟩

/-- What a run starts from, if the graph that was read is sound. -/
theorem readInputs_apply {config : FetchConfig} {w w₁ w₂ : World} {g : Graph} {m : Manifest}
    (hg : Graph.Sound g) (hload : Graph.load config.inputGraph w = (.ok g, w₁))
    (hmanifest : Manifest.load config.manifest w₁ = (.ok m, w₂)) :
    ∃ events, readInputs config w = (.ok (g.merged, m), w₂.recordAll events) := by
  obtain ⟨events, hmerge⟩ := Graph.mergeRemotes_apply hg []
  unfold readInputs
  rw [bind_apply, hload, andThen_ok, bind_apply, hmanifest, andThen_ok, bind_apply, mergeRemotes,
    hmerge]
  let stats := g.merged.stats
  refine ⟨events ++
    [⟨.debug, .run, s!"Added {g.remotes.length} remote nodes to the lookup table"⟩,
      ⟨.info, .run, s!"Graph has {stats.nodes} nodes, {stats.edges} edges, {stats.runNodes} run nodes "
        ++ s!"({stats.unresolved} unresolved)"⟩], ?_⟩
  rw [World.recordAll_append]
  rfl

/-! ### A run without work -/

/-- A run can read its input, which holds the given octets, and its manifest, and can write the
octets as its output. -/
structure Ready (config : FetchConfig) (octets : Bytes) (w : World) : Prop where
  input : w.Keeps fun d => d.read config.inputGraph = .ok octets
  manifest : ∀ path, config.manifest = some path → w.Keeps fun d => ∃ text, d.readText path = .ok text
  output : w.Keeps fun d => ∃ l d', Disk.replace config.outputGraph octets d = (.ok l, d')

theorem Ready.readInputs {config : FetchConfig} {text : String} {w : World} {g : Graph}
    (hready : Ready config (Text.Utf8.encode text) w) (hparse : Graph.parse text = .ok g) :
    ∃ m events, RpmProvision.readInputs config w = (.ok (g.merged, m), w.recordAll events) := by
  obtain ⟨e₁, hload⟩ := Graph.load_apply hready.input hparse
  obtain ⟨m, e₂, hmanifest⟩ : ∃ m e, Manifest.load config.manifest (w.record e₁)
      = (.ok m, (w.record e₁).record e) :=
    Manifest.load_apply fun p hp => ((hready.manifest p hp).record e₁).now
  obtain ⟨events, hread⟩ := readInputs_apply (Graph.sound_of_parse hparse) hload hmanifest
  exact ⟨m, e₁ :: e₂ :: events, hread⟩

/-- A graph is saved by replacing the file. -/
theorem Graph.save_apply {g : Graph} {path : Path} {w : World}
    (h : w.Keeps fun d => ∃ l d', Disk.replace path (Text.Utf8.encode g.render) d = (.ok l, d')) :
    ∃ d l w', Disk.replace path (Text.Utf8.encode g.render) d = (.ok l, w'.disk)
      ∧ g.save path w = (.ok (), w') := by
  let e : Event := ⟨.debug, .graphFile, s!"Writing graph to {path.text}"⟩
  obtain ⟨l, d', hreplace⟩ := (h.record e).now
  refine ⟨(w.record e).disk, l,
    { w.record e with disk := d', logFile := (w.record e).logFile.filter (·.location ≠ l) },
    hreplace, ?_⟩
  unfold Graph.save
  rw [bind_apply]
  show andThen _ (.ok (), w.record e) = _
  rw [andThen_ok, mapError_apply]
  unfold World.replaceFile
  rw [hreplace]
  rfl

/-- A run that finds nothing to do. It ends without a report and makes no cloner, whatever making one
would do. The last thing it does is to replace its output by the octets. -/
structure Idle (config : FetchConfig) (arbiter : Arbiter τ) (s : Session τ) (octets : Bytes) :
    Prop where
  settled : ∃ g m w, readInputs config s.world = (.ok (g, m), w) ∧ g.unresolvedRunNodes = []
  written : ∃ d l w', Disk.replace config.outputGraph octets d = (.ok l, w'.disk)
    ∧ w'.disk.entries.find? l = some (.file octets)
    ∧ ∀ makeCloner, fetchPackages config arbiter makeCloner s = (.ok none, ⟨w', s.agent⟩)

/-- A run is idle if its input is the text of a graph in which nothing is left to do. -/
theorem idle_iff {config : FetchConfig} {arbiter : Arbiter τ} {s : Session τ} {text : String}
    {g : Graph} (hready : Ready config (Text.Utf8.encode text) s.world)
    (hparse : Graph.parse text = .ok g) (hrender : g.render = text) :
    Idle config arbiter s (Text.Utf8.encode text) ↔ g.merged.unresolvedRunNodes = [] := by
  obtain ⟨m, events, hread⟩ := hready.readInputs hparse
  constructor
  · -- reading the inputs twice gives the same graph
    rintro ⟨⟨g', m', w, hread', hnil⟩, -⟩
    cases hread.symm.trans hread'
    exact hnil
  · intro hnil
    let e : Event := ⟨.info, .run, "No unresolved packages to cache"⟩
    have htext : g.merged.render = text := hrender
    obtain ⟨d, l, w', hreplace, hsave⟩ := @Graph.save_apply g.merged config.outputGraph
      ((s.world.recordAll events).record e) (by
        rw [htext]
        exact (hready.output.recordAll events).record e)
    rw [htext] at hreplace
    refine ⟨⟨g.merged, m, _, hread, hnil⟩, d, l, w', hreplace, Disk.find?_of_replace hreplace,
      fun makeCloner => ?_⟩
    unfold fetchPackages
    refine (Session.onWorld_bind_of_ok hread _).trans ?_
    dsimp only
    rw [if_pos (Graph.stats_unresolved_eq_zero_iff.mpr hnil), bind_apply]
    show andThen _ (.ok (), (⟨(s.world.recordAll events).record e, s.agent⟩ : Session τ)) = _
    rw [andThen_ok]
    exact Session.onWorld_bind_of_ok hsave _

/-! ### A run with work -/

/-- What a run makes of its inputs: a cloner, the report, and the graph with its RPMs. -/
def prepare (config : FetchConfig) (arbiter : Arbiter τ)
    (makeCloner : ClonerConfig → Step (Session τ) Error (Cloner τ)) (g : Graph)
    (manifest : Manifest) : Step (Session τ) Error (Cloner τ × Report × Graph) := do
  Session.log .info .run "Found unresolved packages to cache, downloading packages"
  let cloner ← (makeCloner config.cloner).mapError (Error.asKind .clonerSetup)
  let ctx : Context τ :=
    { cloner, arbiter, manifest, outDir := config.cloner.outDir, cloneDeps := config.cloneDeps }
  let (report, resolved) ← resolveWith ctx config.runOptions g
  pure (cloner, report, resolved)

/-- How a run ends: it writes the graph and makes a repository of the packages. -/
def deliver (config : FetchConfig) (cloner : Cloner τ) (report : Report) (resolved : Graph) :
    Step (Session τ) Error (Option Report) := do
  resolved.save config.outputGraph
  Session.log .info .run
    (s!"Wrote resolved graph to {config.outputGraph.text} "
      ++ s!"({resolved.stats.unresolved} run nodes still unresolved)")
  cloner.convert.mapError (Error.asKind .repositoryConversion)
  pure (some report)

variable {config : FetchConfig} {arbiter : Arbiter τ}
  {makeCloner : ClonerConfig → Step (Session τ) Error (Cloner τ)}

theorem fetchPackages_of_readInputs {s : Session τ} {w : World} {g : Graph} {m : Manifest}
    (hread : readInputs config s.world = (.ok (g, m), w)) (hwork : g.unresolvedRunNodes ≠ []) :
    fetchPackages config arbiter makeCloner s
      = (prepare config arbiter makeCloner g m >>= fun r => deliver config r.1 r.2.1 r.2.2)
        ⟨w, s.agent⟩ := by
  unfold fetchPackages prepare
  refine (Session.onWorld_bind_of_ok hread _).trans ?_
  dsimp only
  rw [if_neg (mt Graph.stats_unresolved_eq_zero_iff.mp hwork)]
  simp only [bind_assoc, pure_bind, fetchWith, deliver]

theorem report_of_deliver {cloner : Cloner τ} {report report' : Report} {resolved : Graph}
    {s s' : Session τ} (h : deliver config cloner report resolved s = (.ok (some report'), s')) :
    report' = report := by
  obtain ⟨_, s₁, _, h⟩ := bind_eq_ok.mp h
  obtain ⟨_, s₂, _, h⟩ := bind_eq_ok.mp h
  obtain ⟨_, s₃, _, h⟩ := bind_eq_ok.mp h
  cases h
  rfl

/-- A run with a report: the inputs were read, the nodes resolved, and the graph written. -/
theorem fetchPackages_eq_some {s s' : Session τ} {report : Report}
    (h : fetchPackages config arbiter makeCloner s = (.ok (some report), s')) :
    ∃ g m w cloner resolved s₁, readInputs config s.world = (.ok (g, m), w)
      ∧ prepare config arbiter makeCloner g m ⟨w, s.agent⟩ = (.ok (cloner, report, resolved), s₁)
      ∧ deliver config cloner report resolved s₁ = (.ok (some report), s') := by
  obtain ⟨⟨g, m⟩, s₀, hinputs, hrest⟩ := bind_eq_ok.mp h
  change Session.onWorld (readInputs config) s = _ at hinputs
  rcases hread : readInputs config s.world with ⟨e | ⟨g', m'⟩, w⟩
  · cases hinputs.symm.trans (Session.onWorld_apply hread)
  · cases hinputs.symm.trans (Session.onWorld_apply hread)
    by_cases hwork : g.unresolvedRunNodes = []
    · -- without work there is no report
      dsimp only at hrest
      rw [if_pos (Graph.stats_unresolved_eq_zero_iff.mpr hwork)] at hrest
      obtain ⟨_, _, _, hrest⟩ := bind_eq_ok.mp hrest
      obtain ⟨_, _, _, hrest⟩ := bind_eq_ok.mp hrest
      cases hrest
    · rw [fetchPackages_of_readInputs hread hwork] at h
      obtain ⟨⟨cloner, report', resolved⟩, s₁, hprepare, hdeliver⟩ := bind_eq_ok.mp h
      cases report_of_deliver hdeliver
      exact ⟨g, m, w, cloner, resolved, s₁, rfl, hprepare, hdeliver⟩

/-- What a run starts from is a graph that was read, with its remote nodes in their slots. -/
theorem readInputs_eq_ok {w w' : World} {g : Graph} {m : Manifest}
    (h : readInputs config w = (.ok (g, m), w')) :
    ∃ text g₀, Graph.parse text = .ok g₀ ∧ g = g₀.merged := by
  -- of the steps that read the inputs only the load and the merge make the graph
  obtain ⟨g₀, w₁, hload, h⟩ := bind_eq_ok.mp h
  obtain ⟨_, w₂, _, h⟩ := bind_eq_ok.mp h
  obtain ⟨⟨count, g₁⟩, w₃, hmerge, h⟩ := bind_eq_ok.mp h
  obtain ⟨_, w₄, _, h⟩ := bind_eq_ok.mp h
  obtain ⟨_, w₅, _, h⟩ := bind_eq_ok.mp h
  cases h
  obtain ⟨_, w₆, _, hload⟩ := bind_eq_ok.mp hload
  obtain ⟨text, w₇, _, hload⟩ := bind_eq_ok.mp hload
  rw [ofExcept_apply] at hload
  cases hparse : Graph.parse text with
  | error e =>
    rw [hparse] at hload
    cases hload
  | ok g' =>
    rw [hparse] at hload
    cases hload
    obtain ⟨events, hmerged⟩ := Graph.mergeRemotes_apply (Graph.sound_of_parse hparse) []
    unfold mergeRemotes at hmerge
    rw [hmerged] at hmerge
    cases hmerge
    exact ⟨text, _, hparse, rfl⟩

theorem resolveGraph_of_prepare {g resolved : Graph} {m : Manifest} {cloner : Cloner τ}
    {report : Report} {s s' : Session τ}
    (h : prepare config arbiter makeCloner g m s = (.ok (cloner, report, resolved), s')) :
    ∃ (ctx : Context τ) (s₁ : Session τ) (final : RunState τ),
      resolveGraph ctx config.runOptions ⟨g, s₁, .empty⟩ = (.ok report, final)
        ∧ final.graph = resolved := by
  obtain ⟨_, _, _, h⟩ := bind_eq_ok.mp h
  obtain ⟨cloner', s₁, _, h⟩ := bind_eq_ok.mp h
  obtain ⟨⟨report', resolved'⟩, s₂, hresolve, h⟩ := bind_eq_ok.mp h
  cases h
  let ctx : Context τ :=
    { cloner, arbiter, manifest := m, outDir := config.cloner.outDir, cloneDeps := config.cloneDeps }
  refine ⟨ctx, s₁, ?_⟩
  change resolveWith ctx config.runOptions g s₁ = _ at hresolve
  unfold resolveWith at hresolve
  rcases hrun : resolveGraph ctx config.runOptions ⟨g, s₁, .empty⟩ with ⟨e | r, final⟩
  · rw [hrun] at hresolve
    cases hresolve
  · rw [hrun] at hresolve
    cases hresolve
    exact ⟨final, rfl, rfl⟩

/-- The graph that a run writes is sound. -/
theorem sound_of_prepare {text : String} {g resolved : Graph} {m : Manifest} {cloner : Cloner τ}
    {report : Report} {s s' : Session τ} (hin : config.inputSummary = none)
    (hparse : Graph.parse text = .ok g)
    (h : prepare config arbiter makeCloner g.merged m s = (.ok (cloner, report, resolved), s')) :
    Graph.Sound resolved := by
  obtain ⟨ctx, s₁, final, hresolve, rfl⟩ := resolveGraph_of_prepare h
  obtain ⟨-, hadv, -⟩ := advances_resolveGraph hin hresolve
  exact (Graph.sound_of_parse hparse).merged.advance hadv

/-! ### Runs on a shelf -/

/-- A disk with a graph file and a manifest that lists zlib. -/
def shelf (g : Graph) : Disk where
  entries := .ofList [(["in.json"], .file (Text.Utf8.encode g.render)),
    (["toolchain"], .file (Text.Utf8.encode "zlib.rpm\n"))]
  workingDir := []
  access := ∅

/-- A run from the shelf. -/
def shelfConfig : FetchConfig where
  inputGraph := ⟨"/in.json"⟩
  outputGraph := ⟨"/out.json"⟩
  manifest := some ⟨"/toolchain"⟩
  stopOnFailure := false
  inputSummary := none
  outputSummary := none
  cloneDeps := false
  cloner :=
    { outDir := ⟨"/out"⟩, rpmDir := ⟨"/rpms"⟩, toolchainDir := ⟨"/toolchain-rpms"⟩, tmpDir := none,
      workerArchive := ⟨"/worker.tar.gz"⟩, repoFiles := [⟨"/base.repo"⟩], usePreviewRepo := false,
      disableDefaultRepos := false, localOnly := false, tls := none }

/-- The same run on the result of the first. -/
def shelfAgain : FetchConfig := { shelfConfig with inputGraph := shelfConfig.outputGraph }

/-- A cloner for which zlib provides everything and was there before. -/
def zlibCloner : Cloner Unit := .ofAnswers (fun _ => .ok ["zlib"]) fun _ _ => .ok true

/-- A session over the shelf, with a log that goes nowhere else. -/
def atShelf (g : Graph) (events : List Event) : Session Unit :=
  ⟨{ World.start (shelf g) with events := events }, ()⟩

/-- A remote node that wants an RPM. -/
def wantedRemote (id : NodeId) (name : String) : Node :=
  { wantedRun id name false with kind := .remote }

/-- A run node for zlib and a remote node, both of which want an RPM. -/
def zlibAndRemote (name : String) : Graph where
  nodes := .ofList [(0, wantedRun 0 "zlib" false), (1, wantedRemote 1 name)]
  needs := ∅
  neededBy := ∅
  slots := .ofList [(⟨"zlib", none, none⟩, 0)]

/-- What a run from the shelf makes of its graph, whatever the log says. -/
def Shelved (g : Graph) (report : Report) (resolved : Graph) : Prop :=
  ∀ events, ∃ more, prepare shelfConfig (.ofAnswers .ok) (fun _ => pure zlibCloner) g.merged
      (.ofList ["zlib.rpm"]) (atShelf g events)
    = (.ok (zlibCloner, report, resolved), atShelf g more)

theorem readInputs_shelf {g : Graph} (hparse : Graph.parse g.render = .ok g) :
    ∃ events, readInputs shelfConfig (atShelf g []).world
      = (.ok (g.merged, .ofList ["zlib.rpm"]), (atShelf g events).world) := by
  have hlog : (atShelf g []).world.logFile = none := rfl
  obtain ⟨e₁, hload⟩ := @Graph.load_apply shelfConfig.inputGraph _ _ _
    (.of_logFile_eq_none hlog rfl) hparse
  obtain ⟨e₂, hmanifest⟩ := @Manifest.load_some ⟨"/toolchain"⟩ ((atShelf g []).world.record e₁)
    "zlib.rpm\n" (Disk.readText_of_read rfl)
  obtain ⟨events, hread⟩ := readInputs_apply (Graph.sound_of_parse hparse) hload hmanifest
  refine ⟨e₁ :: e₂ :: events, hread.trans ?_⟩
  rw [← World.recordAll_cons, ← World.recordAll_cons, World.recordAll_of_logFile_eq_none hlog]
  rfl

/-- A run from the shelf that resolves its nodes puts the graph beside the input. -/
theorem fetchPackages_shelf {g resolved : Graph} {report : Report}
    (hparse : Graph.parse g.render = .ok g) (hwork : g.merged.unresolvedRunNodes ≠ [])
    (hprepare : Shelved g report resolved) :
    ∃ s', fetchPackages shelfConfig (.ofAnswers .ok) (fun _ => pure zlibCloner) (atShelf g [])
        = (.ok (some report), s')
      ∧ s'.world.logFile = none
      ∧ s'.world.disk = (shelf g).renew ["out.json"] (.file (Text.Utf8.encode resolved.render)) := by
  obtain ⟨events, hread⟩ := readInputs_shelf hparse
  obtain ⟨more, hp⟩ := hprepare events
  refine ⟨(deliver shelfConfig zlibCloner report resolved (atShelf g more)).2, ?_, rfl, rfl⟩
  rw [fetchPackages_of_readInputs hread hwork, bind_apply]
  show andThen _ (prepare shelfConfig _ _ g.merged _ (atShelf g events)) = _
  rw [hp]
  rfl

theorem ready_shelf {g resolved : Graph} {w : World} (hlog : w.logFile = none)
    (hdisk : w.disk = (shelf g).renew ["out.json"] (.file (Text.Utf8.encode resolved.render))) :
    Ready shelfAgain (Text.Utf8.encode resolved.render) w := by
  refine ⟨.of_logFile_eq_none hlog ?_, fun path hpath => .of_logFile_eq_none hlog ?_,
    .of_logFile_eq_none hlog ?_⟩
  · rw [hdisk]
    rfl
  · cases hpath
    rw [hdisk]
    exact ⟨"zlib.rpm\n", Disk.readText_of_read rfl⟩
  · rw [hdisk]
    exact ⟨_, _, rfl⟩

/-! ### A run on the result of a run -/

/-- No node that the report calls up to date has left its requirement to a node that wants an RPM. -/
def LeavesNothing (g : Graph) (report : Report) : Prop :=
  ∀ id rpm n, .resolved id rpm .upToDate ∈ report.outcomes → g.node? id = some n →
    ∀ h, Graph.Heir g n.requirement h → h.state ≠ .unresolved

/-- What is left to do for the graph of a run all of whose nodes were resolved. -/
theorem unresolvedRunNodes_merged_iff {ctx : Context τ} {options : RunOptions} {text : String}
    {g₀ g₂ : Graph} {session : Session τ} {final : RunState τ} {report : Report}
    (hin : options.inputSummary = none) (hparse : Graph.parse text = .ok g₀)
    (hrun : resolveGraph ctx options ⟨g₀.merged, session, .empty⟩ = (.ok report, final))
    (hall : ∀ o ∈ report.outcomes, o.isResolved) (h₂ : Graph.Sound g₂) (hslots : Graph.RunSlots g₂)
    (hnodes : g₂.nodes = final.graph.nodes) :
    g₂.merged.unresolvedRunNodes = [] ↔ LeavesNothing final.graph report := by
  obtain ⟨hids, hadv, hout⟩ := advances_resolveGraph hin hrun
  change report.outcomes.map Outcome.node = g₀.merged.unresolvedRunNodes at hids
  change Graph.Advances g₀.merged.unresolvedRunNodes g₀.merged final.graph at hadv
  have h₀ : Graph.Sound g₀ := Graph.sound_of_parse hparse
  have hslots₀ : Graph.RunSlots g₀ := Graph.runSlots_of_parse hparse
  -- every node that the run started from has an RPM, and the report tells its state
  have hgot : ∀ o ∈ report.outcomes, ∀ n, final.graph.node? o.node = some n →
      ∃ before rpm b, g₀.node? o.node = some before ∧ n = before.resolved rpm b
        ∧ o = .resolved o.node rpm n.state := by
    intro o ho n hn
    obtain ⟨before, after, hbefore, hafter, hprovided⟩ := hout o ho
    cases hafter.symm.trans hn
    obtain ⟨rpm, b, heq, ho'⟩ := hprovided (hall o ho)
    exact ⟨before, rpm, b, hbefore, heq, ho'⟩
  have hstart : ∀ id ∈ g₀.merged.unresolvedRunNodes, ∃ o ∈ report.outcomes, o.node = id := by
    intro id hid
    rw [← hids] at hid
    exact List.mem_map.mp hid
  rw [Graph.unresolvedRunNodes_merged_eq_nil h₀ hslots₀ hadv ?_ h₂ hslots hnodes]
  · constructor
    · intro hcond id rpm n hmem hn
      obtain ⟨before, rpm', b, -, rfl, ho⟩ := hgot _ hmem n hn
      have hid : id ∈ g₀.merged.unresolvedRunNodes := by
        rw [← hids]
        exact List.mem_map.mpr ⟨_, hmem, rfl⟩
      refine hcond id hid _ hn ?_
      cases b with
      | true => rfl
      | false => cases ho
    · intro hleaves id hid n hn hkind
      obtain ⟨o, ho, rfl⟩ := hstart id hid
      obtain ⟨before, rpm, b, hbefore, rfl, heq⟩ := hgot o ho n hn
      cases b with
      | true =>
        refine hleaves o.node rpm _ ?_ hn
        rw [heq] at ho
        exact ho
      | false =>
        -- no pre-built node holds a slot after a merge
        obtain ⟨⟨r, hr⟩, -⟩ := Graph.mem_unresolvedRunNodes_iff.mp hid
        obtain ⟨holder, hheir, hholder⟩ := (Graph.find?_merged_of_runSlots h₀ hslots₀).mp hr
        rw [← hholder, hheir.node] at hbefore
        cases hbefore
        rw [resolved_kind, if_neg (by decide)] at hkind
        rcases hheir.first with ⟨hk, -⟩ | ⟨hk, -⟩ <;> rw [hkind] at hk <;> cases hk
  · intro id hid n hn
    obtain ⟨o, ho, rfl⟩ := hstart id hid
    obtain ⟨before, rpm, b, -, rfl, -⟩ := hgot o ho n hn
    exact resolved_state_ne_unresolved before rpm b

/-- Suppose that a run without a summary ends with a report in which all nodes are resolved. Then a
run on the graph that it has written is idle, and so writes the same octets again, exactly if no node
has left its requirement to one that wants an RPM. -/
theorem idle_again_iff {s s' : Session τ} {report : Report} (hin : config.inputSummary = none)
    (hrun : fetchPackages config arbiter makeCloner s = (.ok (some report), s'))
    (hall : ∀ o ∈ report.outcomes, o.isResolved) :
    ∃ g m w cloner resolved s₁, readInputs config s.world = (.ok (g, m), w)
      ∧ prepare config arbiter makeCloner g m ⟨w, s.agent⟩ = (.ok (cloner, report, resolved), s₁)
      ∧ deliver config cloner report resolved s₁ = (.ok (some report), s')
      ∧ ∀ {υ : Type} (again : FetchConfig) (judge : Arbiter υ) (t : Session υ),
        Ready again (Text.Utf8.encode resolved.render) t.world →
          (Idle again judge t (Text.Utf8.encode resolved.render)
            ↔ LeavesNothing resolved report) := by
  obtain ⟨g, m, w, cloner, resolved, s₁, hread, hprepare, hdeliver⟩ := fetchPackages_eq_some hrun
  refine ⟨g, m, w, cloner, resolved, s₁, hread, hprepare, hdeliver, fun again judge t hready => ?_⟩
  obtain ⟨text, g₀, hparse, rfl⟩ := readInputs_eq_ok hread
  have hsound : Graph.Sound resolved := sound_of_prepare hin hparse hprepare
  obtain ⟨ctx, s₂, final, hresolve, rfl⟩ := resolveGraph_of_prepare hprepare
  obtain ⟨g₂, hparse₂, hnodes, hneeds, -, hslots⟩ := Graph.parse_render_eq_ok hsound
  rw [idle_iff hready hparse₂ (Graph.render_congr hnodes hneeds)]
  exact unresolvedRunNodes_merged_iff hin hparse hresolve hall (Graph.sound_of_parse hparse₂) hslots
    hnodes

/-- The RPM that zlib has on the shelf. -/
def zlibRpm : Path := ⟨"/out/zlib.rpm"⟩

/-- Zlib and curl have got the RPM of zlib, which the toolchain had built. -/
def zlibAndCurlGot : Graph :=
  ((zlibAndRemote "curl").merged.setNode 0 ((wantedRun 0 "zlib" false).resolved zlibRpm true)).setNode
    1 ((wantedRemote 1 "curl").resolved zlibRpm true)

/-- The report about zlib and curl. -/
def zlibAndCurlReport : Report :=
  ⟨[.resolved 0 zlibRpm .upToDate, .resolved 1 zlibRpm .upToDate], false⟩

theorem idle_again_zlibAndCurl : ∃ s',
    fetchPackages shelfConfig (.ofAnswers .ok) (fun _ => pure zlibCloner)
        (atShelf (zlibAndRemote "curl") []) = (.ok (some zlibAndCurlReport), s')
      ∧ (∀ o ∈ zlibAndCurlReport.outcomes, o.isResolved)
      ∧ ∃ octets, s'.world.disk.read shelfConfig.outputGraph = .ok octets
        ∧ Idle shelfAgain (.ofAnswers .ok) s' octets := by
  have hparse : Graph.parse (zlibAndRemote "curl").render = .ok (zlibAndRemote "curl") :=
    Graph.parse_render_of_build rfl
  have hshelved : Shelved (zlibAndRemote "curl") zlibAndCurlReport zlibAndCurlGot :=
    fun _ => ⟨_, rfl⟩
  have hall : ∀ o ∈ zlibAndCurlReport.outcomes, o.isResolved := by decide
  obtain ⟨s', hrun, hlog, hdisk⟩ := fetchPackages_shelf hparse (by decide) hshelved
  obtain ⟨g, m, w, cloner, resolved, s₁, hread, hprepare, -, hiff⟩ := idle_again_iff rfl hrun hall
  obtain ⟨events, hread'⟩ := readInputs_shelf hparse
  cases hread.symm.trans hread'
  obtain ⟨more, hprepare'⟩ := hshelved events
  cases hprepare.symm.trans hprepare'
  have hready := ready_shelf hlog hdisk
  refine ⟨s', hrun, hall, _, hready.input.now, (hiff shelfAgain (.ofAnswers .ok) s' hready).mpr ?_⟩
  -- no node at all wants an RPM any more
  intro _ _ _ _ _ h hheir
  have hgot : ∀ n ∈ zlibAndCurlGot.nodes.values, n.state ≠ .unresolved := by decide
  exact hgot h (SortedMap.mem_values_iff.mpr ⟨h.id, hheir.node⟩)

/-- The remote node for zlib has got an RPM, and the run node for zlib still wants one. -/
def zlibLeft : Graph :=
  (zlibAndRemote "zlib").merged.setNode 1 ((wantedRemote 1 "zlib").resolved zlibRpm true)

/-- The report about the remote node for zlib, which held the slot. -/
def zlibLeftReport : Report := ⟨[.resolved 1 zlibRpm .upToDate], false⟩

/-- All nodes of a run can be resolved while a run on the result has work to do: the remote node for
zlib becomes pre-built, and the run node for zlib has the slot again when the graph is read. -/
theorem not_idle_again_zlibLeft : ∃ s',
    fetchPackages shelfConfig (.ofAnswers .ok) (fun _ => pure zlibCloner)
        (atShelf (zlibAndRemote "zlib") []) = (.ok (some zlibLeftReport), s')
      ∧ (∀ o ∈ zlibLeftReport.outcomes, o.isResolved)
      ∧ ∃ octets, s'.world.disk.read shelfConfig.outputGraph = .ok octets
        ∧ ¬ Idle shelfAgain (.ofAnswers .ok) s' octets
        ∧ ∀ e, (fetchPackages shelfAgain (.ofAnswers .ok) (fun _ => Step.fail e) s').1
          = .error (e.asKind .clonerSetup) := by
  have hparse : Graph.parse (zlibAndRemote "zlib").render = .ok (zlibAndRemote "zlib") :=
    Graph.parse_render_of_build rfl
  have hshelved : Shelved (zlibAndRemote "zlib") zlibLeftReport zlibLeft := fun _ => ⟨_, rfl⟩
  obtain ⟨s', hrun, hlog, hdisk⟩ := fetchPackages_shelf hparse (by decide) hshelved
  have hready := ready_shelf hlog hdisk
  obtain ⟨more, hprepare⟩ := hshelved []
  obtain ⟨g, hparse', hnodes, hneeds, -, hslots⟩ :=
    Graph.parse_render_eq_ok (sound_of_prepare rfl hparse hprepare)
  -- the run node is the heir of the requirement, as no remote node is left
  have hnone : ∀ n ∈ zlibLeft.nodes.values, n.kind ≠ .remote := by decide
  have hheir : Graph.Heir zlibLeft ⟨"zlib", none, none⟩ (wantedRun 0 "zlib" false) :=
    ⟨rfl, rfl, .inr ⟨rfl, fun n hn _ => hnone n (SortedMap.mem_values_iff.mpr ⟨n.id, hn⟩)⟩⟩
  have hmem := (hheir.congr hnodes).mem_unresolvedRunNodes (Graph.sound_of_parse hparse') hslots rfl
  have hwork : g.merged.unresolvedRunNodes ≠ [] := List.ne_nil_of_mem hmem
  obtain ⟨m, events, hread⟩ := hready.readInputs hparse'
  refine ⟨s', hrun, by decide, _, hready.input.now, ?_, fun e => ?_⟩
  · rw [idle_iff hready hparse' (Graph.render_congr hnodes hneeds)]
    exact hwork
  · rw [fetchPackages_of_readInputs hread hwork]
    rfl

end RpmProvision
