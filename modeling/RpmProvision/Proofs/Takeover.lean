/-
Runs that take packages over from a summary.

A run with a summary of an earlier one looks for nothing and gets nothing. If a node wants an RPM, it
makes a cloner and lets it restore what the summary tells, and then it writes the graph as it was read.
If there is no such summary or the cloner cannot restore it, the run writes nothing at all.

* **`takeOver`** — what a run does about its nodes then, and the ways in which that ends;
* **`Searchless`** — nobody has been asked to find, get or judge packages;
* **`Equipped`** — a run gets as far as to take packages over;
* **`Finish`** — the rest of a run that succeeds, and the files that it leaves;
* **`takeover_fetchPackages`** — all runs with a summary.
-/
import RpmProvision.Proofs.Course
import RpmProvision.Proofs.Resolution.Verdict
import RpmProvision.Proofs.Summary

namespace RpmProvision

open Step Resolution

variable {τ : Type}

/-! ### Taking packages over -/

/-- The event that announces a restore. -/
def restoringEvent (path : Path) : Event :=
  ⟨.info, .run, s!"Restoring cloned packages from {path.text}"⟩

/-- The session in which a run sets out to take packages over. -/
def Session.restoring (s : Session τ) (path : Path) : Session τ :=
  ⟨s.world.record (restoringEvent path), s.agent⟩

/-- The session in which a restore has been reported. -/
def Session.restored (s : Session τ) (summary : Summary) (path : Path) : Session τ :=
  ⟨s.world.record ⟨.info, .summary,
    s!"Restored {summary.packages.size} cloned packages from {path.text}"⟩, s.agent⟩

/-- Save what a cloner has got, if that is wanted, and report a failure. -/
def saveWanted (cloner : Cloner τ) : Option Path → Step (Session τ) Error Unit
  | none => pure ()
  | some path => (cloner.saveContents path).onError fun e =>
    Session.log .error .run s!"Failed to save cloned repo contents: {e.message}"

/-- What a run with a summary does instead of resolving nodes. -/
def takeOver (cloner : Cloner τ) (path : Path) (outputSummary : Option Path) :
    Step (Session τ) Error Unit := do
  Session.log .info .run s!"Restoring cloned packages from {path.text}"
  (cloner.restoreContents path).onError fun e =>
    Session.log .error .run s!"Failed to restore cloned repo contents: {e.message}"
  saveWanted cloner outputSummary

/-- The event that tells of a failed restore. -/
def restoreFailedEvent (e : Error) : Event :=
  ⟨.error, .run, s!"Failed to restore cloned repo contents: {e.message}"⟩

section takeOver

variable {cloner : Cloner τ} {path : Path} {s s' : Session τ}

theorem takeOver_of_error {e : Error}
    (h : cloner.restoreContents path (s.restoring path) = (.error e, s'))
    (outputSummary : Option Path) :
    takeOver cloner path outputSummary s
      = (.error e, ⟨s'.world.record (restoreFailedEvent e), s'.agent⟩) := by
  unfold takeOver
  rw [bind_apply]
  show andThen _ (.ok (), s.restoring path) = _
  rw [andThen_ok, bind_apply, onError_apply, h]
  rfl

theorem takeOver_of_ok (h : cloner.restoreContents path (s.restoring path) = (.ok (), s'))
    (outputSummary : Option Path) :
    takeOver cloner path outputSummary s = saveWanted cloner outputSummary s' := by
  unfold takeOver
  rw [bind_apply]
  show andThen _ (.ok (), s.restoring path) = _
  rw [andThen_ok, bind_apply, onError_apply, h]
  rfl

/-- No summary can be taken over: the cloner is not asked. -/
theorem takeOver_of_not_stored
    (h : ∀ summary : Summary, ¬ summary.Stored path (s.restoring path).world.disk)
    (cloner : Cloner τ) (outputSummary : Option Path) :
    ∃ e, takeOver cloner path outputSummary s
        = (.error e, ⟨(s.restoring path).world.record (restoreFailedEvent e), s.agent⟩)
      ∧ e.kind = .summaryRestore := by
  obtain ⟨e, hrestore, hkind⟩ := cloner.restoreContents_of_not_stored h
  exact ⟨e, takeOver_of_error hrestore outputSummary, hkind⟩

/-- The cloner cannot restore the summary. -/
theorem takeOver_of_refused {summary : Summary} {e : Error}
    (hstored : summary.Stored path (s.restoring path).world.disk)
    (h : cloner.restore summary (s.restoring path) = (.error e, s')) (outputSummary : Option Path) :
    takeOver cloner path outputSummary s = (.error (e.asKind .summaryRestore),
      ⟨s'.world.record (restoreFailedEvent (e.asKind .summaryRestore)), s'.agent⟩) := by
  refine takeOver_of_error ?_ outputSummary
  rw [cloner.restoreContents_of_stored hstored, bind_apply, mapError_apply, h]
  rfl

/-- The cloner restores the summary. -/
theorem takeOver_of_restored {summary : Summary}
    (hstored : summary.Stored path (s.restoring path).world.disk)
    (h : cloner.restore summary (s.restoring path) = (.ok (), s')) (outputSummary : Option Path) :
    takeOver cloner path outputSummary s
      = saveWanted cloner outputSummary (s'.restored summary path) := by
  refine takeOver_of_ok ?_ outputSummary
  rw [cloner.restoreContents_of_stored hstored, bind_apply, mapError_apply, h]
  rfl

end takeOver

/-- With a summary a run over a graph takes packages over, whether it is to stop on failures or not,
and leaves the graph as it is. -/
theorem resolveWith_of_inputSummary {ctx : Context τ} {options : RunOptions} {path : Path}
    (hin : options.inputSummary = some path) (g : Graph) (s : Session τ) :
    resolveWith ctx options g s
      = ((takeOver ctx.cloner path options.outputSummary s).1.map fun _ => (.ofRestore, g),
        (takeOver ctx.cloner path options.outputSummary s).2) := by
  have hsave (t : Session τ) :
      (saveTo ctx options.outputSummary >>= fun _ => pure Report.ofRestore) ⟨g, t, .empty⟩
        = ((saveWanted ctx.cloner options.outputSummary t).1.map fun _ => .ofRestore,
          ⟨g, (saveWanted ctx.cloner options.outputSummary t).2, .empty⟩) := by
    cases options.outputSummary with
    | none => rfl
    | some out =>
      show andThen _ ((saveWanted ctx.cloner (some out) t).1,
        (⟨g, (saveWanted ctx.cloner (some out) t).2, .empty⟩ : RunState τ)) = _
      cases (saveWanted ctx.cloner (some out) t).1 <;> rfl
  have hprovision : provision ctx options.inputSummary options.outputSummary ⟨g, s, .empty⟩
      = ((takeOver ctx.cloner path options.outputSummary s).1.map fun _ => .ofRestore,
        ⟨g, (takeOver ctx.cloner path options.outputSummary s).2, .empty⟩) := by
    rw [hin, provision, bind_apply, restoreFrom, bind_apply]
    show andThen _ (andThen _ (.ok (), (⟨g, s.restoring path, .empty⟩ : RunState τ))) = _
    rw [andThen_ok, bind_apply, RunState.onSession, RunState.onProgress, within_apply,
      Progress.onSession, within_apply, onError_apply]
    rcases hrestore : ctx.cloner.restoreContents path (s.restoring path) with ⟨e | _, t⟩
    · rw [takeOver_of_error hrestore]
      rfl
    · rw [takeOver_of_ok hrestore]
      exact hsave t
  unfold resolveWith
  rw [resolveGraph_eq, hprovision]
  cases (takeOver ctx.cloner path options.outputSummary s).1 with
  | error e => rfl
  | ok _ =>
    show ((judged options.stopOnFailure g .ofRestore).map _, _) = _
    rw [judged_of_hardFailures_eq_nil rfl]
    rfl

/-! ### Runs that search for nothing -/

/-- Whether packages were to be found, got or judged. -/
def Request.IsSearch : Request → Prop
  | .ask (.lookup ..) | .ask (.clone ..) | .ask (.judge ..) => True
  | _ => False

/-- Nobody has been asked to find, get or judge packages. -/
def Searchless (s : Session (Watched τ)) : Prop := ∀ v ∈ s.visits, ¬ v.request.IsSearch

namespace Searchless

theorem onWorld {ε α : Type} (x : Step World ε α) :
    Maintains (Searchless (τ := τ)) (Session.onWorld x) := ⟨fun _ hs => hs⟩

theorem log {ε : Type} (level : Level) (source : Source) (message : String) :
    Maintains (Searchless (τ := τ)) (Session.log (ε := ε) level source message) := onWorld _

/-- One more visit. -/
theorem visit {s : Session (Watched τ)} {s' : Session τ} {v : Visit} (h : Searchless s)
    (hv : ¬ v.request.IsSearch) : Searchless (s'.watching (s.visits ++ [v])) := by
  intro v' hv'
  rcases List.mem_append.mp hv' with hv' | hv'
  · exact h v' hv'
  · cases List.mem_singleton.mp hv'
    exact hv

theorem takeOver (cloner : Cloner τ) (path : Path) (outputSummary : Option Path) :
    Maintains Searchless (takeOver cloner.watched path outputSummary) := by
  have hrestore : Maintains Searchless (cloner.watched.restoreContents path) :=
    .bind (onWorld _) fun _ => .bind (.mapError ⟨fun _ hs => hs.visit id⟩) fun _ => log ..
  have hsave : Maintains Searchless (saveWanted cloner.watched outputSummary) := by
    cases outputSummary with
    | none => exact .pure _
    | some out =>
      refine .onError ?_ fun _ => log ..
      exact .bind ⟨fun _ hs => hs.visit id⟩ fun _ => .bind (onWorld _) fun _ => log ..
  exact .bind (log ..) fun _ => .bind (.onError hrestore fun _ => log ..) fun _ => hsave

/-- A cloner that is made is watched. -/
theorem watchedMaker {α : Type} {makeCloner : ClonerConfig → Step (Session τ) Error (Cloner τ)}
    {config : ClonerConfig} {f : Error → Error}
    {next : Cloner (Watched τ) → Step (Session (Watched τ)) Error α}
    (h : ∀ cloner : Cloner τ, Maintains Searchless (next cloner.watched)) :
    Maintains Searchless ((watchedMaker makeCloner config).mapError f >>= next) := by
  refine ⟨fun s hs => ?_⟩
  rcases hmake : makeCloner config (s.mapAgent Watched.agent) with ⟨r, s'⟩
  have hvisit : Searchless
      (s'.watching (s.visits ++ [⟨.make (r.map fun _ => ()), s.world, s'.world⟩])) := hs.visit id
  have hmake' : RpmProvision.watchedMaker makeCloner config s = _ := watchedMaker_apply hmake s.visits
  rw [bind_apply, mapError_apply, hmake']
  cases r with
  | error e => exact hvisit
  | ok cloner => exact (h cloner).of_run _ hvisit

/-- With a summary nothing is searched for. -/
theorem fetchPackages {config : FetchConfig} {path : Path} (hin : config.inputSummary = some path)
    (arbiter : Arbiter τ) (makeCloner : ClonerConfig → Step (Session τ) Error (Cloner τ)) :
    Maintains Searchless (fetchPackages config arbiter.watched (RpmProvision.watchedMaker makeCloner)) := by
  have hresolve (m : Manifest) (cloner : Cloner τ) (g : Graph) : Maintains Searchless
      (resolveWith (contextOf config arbiter.watched m cloner.watched) config.runOptions g) := by
    refine ⟨fun s hs => ?_⟩
    rw [resolveWith_of_inputSummary hin]
    exact (takeOver cloner path config.outputSummary).of_run s hs
  refine .bind (onWorld _) fun ⟨g, m⟩ => ?_
  dsimp only
  split_ifs
  · exact .bind (log ..) fun _ => .bind (onWorld _) fun _ => .pure _
  · refine .bind (log ..) fun _ => watchedMaker fun cloner => .bind ?_ fun _ => .pure _
    refine .bind (hresolve m cloner g) fun _ => .bind (onWorld _) fun _ => .bind (log ..) fun _ => ?_
    exact .bind (.mapError ⟨fun _ hs => hs.visit id⟩) fun _ => .pure _

end Searchless

/-! ### Runs that get as far as to take packages over -/

variable {config : FetchConfig} {arbiter : Arbiter τ}
  {makeCloner : ClonerConfig → Step (Session τ) Error (Cloner τ)} {s s₁ : Session τ} {g : Graph}
  {cloner : Cloner τ} {path : Path}

/-- A run reads its inputs, a node wants an RPM once the remote nodes have taken their slots, and a
cloner is made. -/
structure Equipped (config : FetchConfig)
    (makeCloner : ClonerConfig → Step (Session τ) Error (Cloner τ)) (s : Session τ) (g : Graph)
    (cloner : Cloner τ) (s₁ : Session τ) : Prop where
  loaded : ∃ w₁ m w₂, Graph.load config.inputGraph s.world = (.ok g, w₁)
    ∧ Manifest.load config.manifest w₁ = (.ok m, w₂)
  work : g.merged.unresolvedRunNodes ≠ []
  made : makeCloner config.cloner ⟨(readInputs config s.world).2.record workEvent, s.agent⟩
    = (.ok cloner, s₁)

/-- The visit in which the cloner is made. -/
def madeVisit (config : FetchConfig) (s s₁ : Session τ) : Visit :=
  ⟨.make (.ok ()), (readInputs config s.world).2.record workEvent, s₁.world⟩

namespace Equipped

variable (h : Equipped config makeCloner s g cloner s₁)

include h

theorem readInputs :
    ∃ m, readInputs config s.world = (.ok (g.merged, m), (readInputs config s.world).2) := by
  obtain ⟨w₁, m, w₂, hg, hm⟩ := h.loaded
  obtain ⟨events, hread⟩ := readInputs_apply (Graph.sound_of_load hg) hg hm
  exact ⟨m, by rw [hread]⟩

/-- Without the resolving of nodes, all that is left is to take packages over and to commit. -/
theorem fetchPackages_eq (hin : config.inputSummary = some path) (arbiter : Arbiter τ) :
    fetchPackages config arbiter makeCloner s
      = (takeOver cloner path config.outputSummary >>= fun _ =>
          commit config (some (cloner, .ofRestore), g.merged)) s₁ := by
  obtain ⟨m, hread⟩ := h.readInputs
  have hresolve : resolveWith (contextOf config arbiter m cloner) config.runOptions g.merged s₁
      = ((takeOver cloner path config.outputSummary s₁).1.map fun _ => (.ofRestore, g.merged),
        (takeOver cloner path config.outputSummary s₁).2) := resolveWith_of_inputSummary hin _ _
  rw [RpmProvision.fetchPackages_eq, bind_apply, gather_of_work _ _ hread h.work, bind_apply,
    prepare_of_ok h.made, hresolve, bind_apply]
  rcases takeOver cloner path config.outputSummary s₁ with ⟨e | _, t⟩
  · rfl
  · rfl

/-- Watched, the run gets as far with the cloner that is watched. -/
theorem watched : Equipped config (watchedMaker makeCloner) (s.watching []) g cloner.watched
    (s₁.watching [madeVisit config s s₁]) where
  loaded := h.loaded
  work := h.work
  made := watchedMaker_apply h.made []

end Equipped

/-! ### What comes of such a run -/

/-- After packages were taken over, the run saves what the cloner has got, writes the graph, and makes
a repository. -/
structure Finish (config : FetchConfig) (cloner : Cloner τ) (g : Graph) (start saved : Session τ)
    (w : World) (final : Session τ) : Prop where
  summary : saveWanted cloner config.outputSummary start = (.ok (), saved)
  graph : g.save config.outputGraph saved.world = (.ok (), w)
  repository : cloner.convert ⟨w.record (wroteEvent config g), saved.agent⟩ = (.ok (), final)

/-- A file holds the octets when a repository is made, and in the end if that leaves it alone. -/
def Delivered (l : Location) (octets : Bytes) (before after : World) : Prop :=
  before.disk.entryAt l = some (.file octets)
    ∧ (Disk.Untouched l before.disk after.disk → after.disk.entryAt l = some (.file octets))

theorem delivered_of_entryAt {l : Location} {octets : Bytes} {before : World}
    (h : before.disk.entryAt l = some (.file octets)) (after : World) :
    Delivered l octets before after :=
  ⟨h, fun huntouched => huntouched.1.trans h⟩

/-- The graph is delivered where a rename to its path ends. A summary of what the cloner has got is
delivered where a file written to its path ends, unless that is the file of the graph or the log. -/
def DeliversBoth (config : FetchConfig) (cloner : Cloner τ) (g : Graph) (start saved : Session τ)
    (before after : World) : Prop :=
  ∃ l, (saved.world.record (writingEvent config.outputGraph)).disk.renameTarget config.outputGraph
      = .ok l
    ∧ Delivered l (Text.Utf8.encode g.render) before after
    ∧ ∀ out, config.outputSummary = some out →
      ∃ k, (cloner.contents start).2.world.disk.writable out = .ok k
        ∧ (k ≠ l → (∀ f, (cloner.contents start).2.world.logFile = some f → f.location ≠ k) →
          Delivered k (Text.Utf8.encode (cloner.contents start).1.render) before after)

/-- What a cloner has got stands in the file that it was saved to. -/
theorem Cloner.entryAt_of_saveWanted {start saved : Session τ} {out : Path}
    (h : saveWanted cloner (some out) start = (.ok (), saved)) :
    ∃ k, (cloner.contents start).2.world.disk.writable out = .ok k
      ∧ ((∀ f, (cloner.contents start).2.world.logFile = some f → f.location ≠ k) →
        saved.world.disk.entryAt k
            = some (.file (Text.Utf8.encode (cloner.contents start).1.render))
          ∧ ∀ f, saved.world.logFile = some f → f.location ≠ k) := by
  have hsave : cloner.saveContents out start = (.ok (), saved) := by
    rw [saveWanted, onError_apply] at h
    rcases hrun : cloner.saveContents out start with ⟨e | _, t⟩
    · rw [hrun] at h
      cases h
    · rw [hrun] at h
      exact h
  obtain ⟨w, e, hwrite, rfl⟩ := Cloner.saveContents_eq_ok hsave
  obtain ⟨d, hd, rfl⟩ := Summary.save_eq_ok hwrite
  obtain ⟨k, hk, hput⟩ := Disk.write_eq_ok hd
  have hne : k ≠ [] := Disk.ne_nil_of_ne_directory (Disk.entryAt_of_writable hk)
  have hfile : d.entryAt k = some (.file (Text.Utf8.encode (cloner.contents start).1.render)) := by
    rw [hput]
    exact Disk.entryAt_put_self _ hne _
  refine ⟨k, hk, fun hclear => ⟨?_, fun f hf => ?_⟩⟩
  · have hclear' : ∀ f, ({ (cloner.contents start).2.world with disk := d } : World).logFile = some f →
        f.location ≠ k := hclear
    exact (World.untouched_record hclear' e).1.trans hfile
  · obtain ⟨f₀, hf₀, hl⟩ := World.logFile_record hf
    rw [hl]
    exact hclear f₀ hf₀

/-- A run that finishes delivers both files. -/
theorem Finish.deliversBoth {start saved final : Session τ} {w : World}
    (h : Finish config cloner g start saved w final) :
    DeliversBoth config cloner g start saved (w.record (wroteEvent config g)) final.world := by
  obtain ⟨l, htarget, hgraph, hlog, helsewhere, hkept⟩ := Graph.stands_of_save h.graph
  refine ⟨l, htarget, delivered_of_entryAt ?_ _, fun out hout => ?_⟩
  · exact (World.untouched_record hlog _).1.trans hgraph
  · have hsummary := h.summary
    rw [hout] at hsummary
    obtain ⟨k, hwritable, hstands⟩ := Cloner.entryAt_of_saveWanted hsummary
    refine ⟨k, hwritable, fun hne hclear => delivered_of_entryAt ?_ _⟩
    obtain ⟨hfile, hlog₁⟩ := hstands hclear
    -- neither the log nor the graph goes into the file of the summary
    have hlog₂ : ∀ f, w.logFile = some f → f.location ≠ k := by
      intro f hf
      obtain ⟨f₀, hf₀, hl⟩ := World.logFile_record (hkept f hf)
      rw [hl]
      exact hlog₁ f₀ hf₀
    calc (w.record (wroteEvent config g)).disk.entryAt k
        = w.disk.entryAt k := (World.untouched_record hlog₂ _).1
      _ = (saved.world.record (writingEvent config.outputGraph)).disk.entryAt k :=
          helsewhere k hne
      _ = saved.world.disk.entryAt k := (World.untouched_record hlog₁ _).1
      _ = _ := hfile

/-- How a run that got as far ends: what it asks, what it writes, and its result. -/
structure TakenOver (config : FetchConfig) (path : Path) (s : Session τ) (g : Graph)
    (cloner : Cloner τ) (s₁ : Session τ) (result : Except Error (Option Report)) (s' : Session τ)
    (visits : List Visit) : Prop where
  /-- Before a cloner is made only the log goes on. -/
  before : s.world.OnlyLogs (madeVisit config s s₁).before
  /-- If no summary can be taken over, the cloner is not asked. -/
  unusable : (∀ summary : Summary, ¬ summary.Stored path (s₁.restoring path).world.disk) →
    (∃ e, result = .error e ∧ e.kind = .summaryRestore)
      ∧ visits = [madeVisit config s s₁] ∧ s₁.world.OnlyLogs s'.world
  /-- If the cloner cannot restore the summary, it is not asked again. -/
  refused : ∀ summary e s₂, summary.Stored path (s₁.restoring path).world.disk →
    cloner.restore summary (s₁.restoring path) = (.error e, s₂) →
      (∃ e, result = .error e ∧ e.kind = .summaryRestore)
        ∧ visits = [madeVisit config s s₁,
          ⟨.ask (.restore summary (.error e)), (s₁.restoring path).world, s₂.world⟩]
        ∧ s₂.world.OnlyLogs s'.world
  /-- If all goes well, the graph is written as it was read, and the report is empty. -/
  done : ∀ summary s₂ saved w final, summary.Stored path (s₁.restoring path).world.disk →
    cloner.restore summary (s₁.restoring path) = (.ok (), s₂) →
    Finish config cloner g.merged (s₂.restored summary path) saved w final →
      result = .ok (some ⟨[], true⟩) ∧ s' = final
        ∧ DeliversBoth config cloner g (s₂.restored summary path) saved
          (w.record (wroteEvent config g.merged)) s'.world

/-- To read the inputs and to find that there is work is only logged. -/
theorem onlyLogs_readInputs (config : FetchConfig) (w : World) :
    w.OnlyLogs ((readInputs config w).2.record workEvent) := by
  obtain ⟨events, hevents⟩ : ∃ events, (readInputs config w).2 = w.recordAll events := by
    refine (maintains_readInputs (P := fun w' => ∃ events, w' = w.recordAll events) ?_).of_run w
      ⟨[], rfl⟩
    rintro _ e ⟨events, rfl⟩
    exact ⟨events ++ [e], (w.recordAll_append events [e]).symm⟩
  have hlogs := w.onlyLogs_recordAll (events ++ [workEvent])
  rw [World.recordAll_append, ← hevents] at hlogs
  exact hlogs

section Run

variable {result : Except Error (Option Report)} {s' : Session τ}
  (h : Equipped config makeCloner s g cloner s₁) (hin : config.inputSummary = some path)

include h hin

/-- If no summary can be taken over, the run fails before it writes anything. -/
theorem Equipped.of_not_stored
    (hnone : ∀ summary : Summary, ¬ summary.Stored path (s₁.restoring path).world.disk)
    (arbiter : Arbiter τ) :
    ∃ e events, fetchPackages config arbiter makeCloner s
        = (.error e, ⟨s₁.world.recordAll events, s₁.agent⟩) ∧ e.kind = .summaryRestore := by
  obtain ⟨e, hrun, hkind⟩ := takeOver_of_not_stored hnone cloner config.outputSummary
  refine ⟨e, [restoringEvent path, restoreFailedEvent e], ?_, hkind⟩
  rw [h.fetchPackages_eq hin arbiter, bind_apply, hrun]
  rfl

/-- If the cloner cannot restore the summary, the run fails before it writes anything. -/
theorem Equipped.of_refused {summary : Summary} {e : Error} {s₂ : Session τ}
    (hstored : summary.Stored path (s₁.restoring path).world.disk)
    (hrefused : cloner.restore summary (s₁.restoring path) = (.error e, s₂)) (arbiter : Arbiter τ) :
    ∃ event, fetchPackages config arbiter makeCloner s
      = (.error (e.asKind .summaryRestore), ⟨s₂.world.record event, s₂.agent⟩) := by
  refine ⟨restoreFailedEvent (e.asKind .summaryRestore), ?_⟩
  rw [h.fetchPackages_eq hin arbiter, bind_apply,
    takeOver_of_refused hstored hrefused config.outputSummary]
  rfl

/-- If all goes well, the run succeeds. -/
theorem Equipped.of_restored {summary : Summary} {s₂ saved final : Session τ} {w : World}
    (hstored : summary.Stored path (s₁.restoring path).world.disk)
    (hrestored : cloner.restore summary (s₁.restoring path) = (.ok (), s₂))
    (hfinish : Finish config cloner g.merged (s₂.restored summary path) saved w final)
    (arbiter : Arbiter τ) :
    fetchPackages config arbiter makeCloner s = (.ok (some .ofRestore), final) := by
  rw [h.fetchPackages_eq hin arbiter, bind_apply,
    takeOver_of_restored hstored hrestored config.outputSummary, hfinish.summary, andThen_ok]
  exact commit_some hfinish.graph hfinish.repository

end Run

/-- A run with a summary searches for nothing. Suppose that its inputs can be read, that a node wants
an RPM, and that a cloner is made. If no summary can be taken over, or the cloner cannot restore it, the
run fails and writes nothing, and without a summary the cloner is not even asked. If all goes well, the
graph is written as it was read, a summary of what the cloner then has is saved if that is wanted, and
the report is empty, whether the run is to stop on failures or not. -/
theorem takeover_fetchPackages {result : Except Error (Option Report)} {s' : Session τ}
    (hin : config.inputSummary = some path)
    (h : fetchPackages config arbiter makeCloner s = (result, s')) :
    ∃ visits, fetchPackages config arbiter.watched (watchedMaker makeCloner) (s.watching [])
        = (result, s'.watching visits)
      ∧ (∀ v ∈ visits, ¬ v.request.IsSearch)
      ∧ ∀ g cloner s₁, Equipped config makeCloner s g cloner s₁ →
        TakenOver config path s g cloner s₁ result s' visits := by
  obtain ⟨_, hopened⟩ := exists_opened config arbiter makeCloner s
  obtain ⟨visits, hrun, -⟩ := hopened.ending h
  refine ⟨visits, hrun, ?_, fun g cloner s₁ hequipped => ?_⟩
  · have hquiet : Searchless (s.watching []) := fun v hv => absurd hv List.not_mem_nil
    have hsearchless := (Searchless.fetchPackages hin arbiter makeCloner).of_run _ hquiet
    rw [hrun] at hsearchless
    exact hsearchless
  · exact {
      before := onlyLogs_readInputs config s.world
      unusable := fun hnone => by
        obtain ⟨e, events, hfailed, hkind⟩ := hequipped.of_not_stored hin hnone arbiter
        obtain ⟨_, _, hwatched, -⟩ := hequipped.watched.of_not_stored hin hnone arbiter.watched
        cases h.symm.trans hfailed
        exact ⟨⟨e, rfl, hkind⟩, congrArg (fun r => r.2.visits) (hrun.symm.trans hwatched),
          s₁.world.onlyLogs_recordAll events⟩
      refused := fun summary e s₂ hstored hrefused => by
        obtain ⟨event, hfailed⟩ := hequipped.of_refused hin hstored hrefused arbiter
        have hrefused' : visiting (fun a => .ask (.restore summary a)) (cloner.restore summary) _ = _ :=
          visiting_watching hrefused [madeVisit config s s₁]
        obtain ⟨_, hwatched⟩ := hequipped.watched.of_refused hin hstored hrefused' arbiter.watched
        cases h.symm.trans hfailed
        exact ⟨⟨_, rfl, asKind_kind _ e⟩, congrArg (fun r => r.2.visits) (hrun.symm.trans hwatched),
          s₂.world.onlyLogs_record event⟩
      done := fun summary s₂ saved w final hstored hrestored hfinish => by
        cases h.symm.trans (hequipped.of_restored hin hstored hrestored hfinish arbiter)
        obtain ⟨l, htarget, hgraph, hsummary⟩ := hfinish.deliversBoth
        have hrender : g.merged.render = g.render := Graph.render_congr rfl rfl
        rw [hrender] at hgraph
        exact ⟨rfl, rfl, l, htarget, hgraph, hsummary⟩ }

/-! ### A summary on the shelf -/

/-- A cloner that has got what it was told to take over. -/
def keepingCloner : Cloner Contents where
  whatProvides _ := pure []
  clonePackage _ _ := pure true
  convert := pure ()
  contents s := (.ofContents s.agent, s)
  restore summary := Step.modify fun s => ⟨s.world, summary.packages⟩

/-- Zlib has been got. -/
def zlibSummary : Summary := .ofContents (.ofList [("zlib", ⟨zlibRpm, true⟩)])

/-- A run from the shelf that takes packages over. -/
def restoringConfig : FetchConfig :=
  { shelfConfig with
    inputSummary := some ⟨"/taken.json"⟩
    outputSummary := some ⟨"/kept.json"⟩
    stopOnFailure := true }

/-- A session over the shelf with the summary, with a log that goes nowhere else. -/
def atSummary (g : Graph) (events : List Event) (got : Contents) : Session Contents :=
  ⟨{ World.start ((shelf g).put ["taken.json"] (.file (Text.Utf8.encode zlibSummary.render))) with
      events := events }, got⟩

theorem equipped_atSummary {g : Graph} (hparse : Graph.parse g.render = .ok g)
    (hwork : g.merged.unresolvedRunNodes ≠ []) :
    ∃ events, Equipped restoringConfig (fun _ => pure keepingCloner) (atSummary g [] ∅) g
      keepingCloner (atSummary g events ∅) := by
  have hlog : (atSummary g [] ∅).world.logFile = none := rfl
  obtain ⟨e₁, hload⟩ := @Graph.load_apply restoringConfig.inputGraph _ _ _
    (.of_logFile_eq_none hlog rfl) hparse
  obtain ⟨e₂, hmanifest⟩ := @Manifest.load_some ⟨"/toolchain"⟩
    ((atSummary g [] ∅).world.record e₁) "zlib.rpm\n" (Disk.readText_of_read rfl)
  obtain ⟨events, hread⟩ := readInputs_apply (Graph.sound_of_parse hparse) hload hmanifest
  refine ⟨(e₁ :: e₂ :: events) ++ [workEvent], ⟨_, _, _, hload, hmanifest⟩, hwork, ?_⟩
  rw [hread, ← World.recordAll_cons, ← World.recordAll_cons,
    World.recordAll_of_logFile_eq_none hlog]
  rfl

theorem takeover_zlibSummary : ∃ s' visits,
    fetchPackages restoringConfig (.ofAnswers .ok) (fun _ => pure keepingCloner)
        (atSummary (zlibAndRemote "curl") [] ∅) = (.ok (some ⟨[], true⟩), s')
      ∧ fetchPackages restoringConfig (Arbiter.ofAnswers .ok).watched
        (watchedMaker fun _ => pure keepingCloner)
        ((atSummary (zlibAndRemote "curl") [] ∅).watching [])
          = (.ok (some ⟨[], true⟩), s'.watching visits)
      ∧ (∀ v ∈ visits, ¬ v.request.IsSearch)
      ∧ s'.world.disk.entryAt ["out.json"]
        = some (.file (Text.Utf8.encode (zlibAndRemote "curl").render))
      ∧ s'.world.disk.entryAt ["kept.json"] = some (.file (Text.Utf8.encode zlibSummary.render)) := by
  have hparse : Graph.parse (zlibAndRemote "curl").render = .ok (zlibAndRemote "curl") :=
    Graph.parse_render_of_build rfl
  obtain ⟨events, hequipped⟩ := equipped_atSummary hparse (by decide)
  have hin : restoringConfig.inputSummary = some ⟨"/taken.json"⟩ := rfl
  rcases hrun : fetchPackages restoringConfig (.ofAnswers .ok) (fun _ => pure keepingCloner)
    (atSummary (zlibAndRemote "curl") [] ∅) with ⟨result, s'⟩
  obtain ⟨visits, hwatched, hquiet, htaken⟩ := takeover_fetchPackages hin hrun
  have hstored : zlibSummary.Stored ⟨"/taken.json"⟩
      ((atSummary (zlibAndRemote "curl") events ∅).restoring ⟨"/taken.json"⟩).world.disk :=
    Summary.stored_of_read rfl rfl
  let start := (atSummary (zlibAndRemote "curl") (events ++ [restoringEvent ⟨"/taken.json"⟩])
    zlibSummary.packages).restored zlibSummary ⟨"/taken.json"⟩
  obtain ⟨saved, w, final, hfinish, hout, hfinal⟩ : ∃ saved w final,
      Finish restoringConfig keepingCloner (zlibAndRemote "curl").merged start saved w final
        ∧ (saved.world.record (writingEvent restoringConfig.outputGraph)).disk.renameTarget
          restoringConfig.outputGraph = .ok ["out.json"]
        ∧ final.world = w.record (wroteEvent restoringConfig (zlibAndRemote "curl").merged) :=
    ⟨_, _, _, ⟨rfl, rfl, rfl⟩, rfl, rfl⟩
  obtain ⟨rfl, rfl, l, htarget, hgraph, hsummary⟩ :=
    (htaken _ _ _ hequipped).done zlibSummary _ saved w final hstored rfl hfinish
  obtain ⟨k, hwritable, hkept⟩ := hsummary ⟨"/kept.json"⟩ rfl
  -- both files are beside the summary that was taken over, and stay when a repository is made
  have hkeptAt : (keepingCloner.contents start).2.world.disk.writable ⟨"/kept.json"⟩
      = .ok ["kept.json"] := rfl
  cases htarget.symm.trans hout
  cases hwritable.symm.trans hkeptAt
  have hapart : (["kept.json"] : Location) ≠ ["out.json"] := by decide
  have hlog : ∀ f, (keepingCloner.contents start).2.world.logFile = some f →
      f.location ≠ ["kept.json"] := fun f hf => nomatch hf
  refine ⟨s', visits, rfl, hwatched, hquiet, ?_, ?_⟩
  · rw [hfinal]
    exact hgraph.1
  · rw [hfinal]
    exact (hkept hapart hlog).1

end RpmProvision
