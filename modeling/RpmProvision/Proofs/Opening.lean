/-
How a run begins.

Before it writes its graph a run visits nobody, if there is no work. Otherwise it has a cloner made,
and then it asks the cloner and the arbiter questions. Meanwhile it writes its log and a summary, but
not its output.

* **`Opening`** — what a run asks before it writes its graph;
* **`exists_opened`** — the visits of a run until then.
-/
import RpmProvision.Proofs.Commit

namespace RpmProvision

open Step Resolution

variable {τ : Type} {config : FetchConfig} {arbiter : Arbiter τ}
  {makeCloner : ClonerConfig → Step (Session τ) Error (Cloner τ)} {s : Session τ}

/-- What a run has gathered, with a cloner that is watched. -/
def watchedGathering (r : Option (Cloner τ × Report) × Graph) :
    Option (Cloner (Watched τ) × Report) × Graph :=
  (r.1.map fun p => (p.1.watched, p.2), r.2)

/-- The visits of a run before it writes its graph: none, if there is no work; the one in which no
cloner could be made; or the one in which a cloner was made and then questions to it and to the
arbiter. -/
inductive Opening (config : FetchConfig) (arbiter : Arbiter τ)
    (makeCloner : ClonerConfig → Step (Session τ) Error (Cloner τ)) (s : Session τ) :
    List Visit → Prop
  | idle (hwork : ¬ HasWork config s.world)
      (hnone : ∀ made g, (gather config arbiter makeCloner s).1 = .ok (made, g) → made = none) :
      Opening config arbiter makeCloner s []
  | failed {e : Error} {before after : World} (hwork : HasWork config s.world)
      (herror : (gather config arbiter makeCloner s).1 = .error (e.asKind .clonerSetup)) :
      Opening config arbiter makeCloner s [⟨.make (.error e), before, after⟩]
  | made {before after : World} {rest : List Visit} (hwork : HasWork config s.world)
      (hrest : ∀ v ∈ rest, ¬ v.request.IsMake ∧ ¬ v.request.IsConvert)
      (hsome : ∀ made g, (gather config arbiter makeCloner s).1 = .ok (made, g) → made ≠ none) :
      Opening config arbiter makeCloner s (⟨.make (.ok ()), before, after⟩ :: rest)

/-- To read the inputs keeps what the log keeps. -/
theorem maintains_readInputs {P : World → Prop} (h : ∀ w e, P w → P (w.record e)) :
    Maintains P (readInputs config) := by
  have hlog (level : Level) (source : Source) (message : String) :
      Maintains P (World.log (ε := Error) level source message) := ⟨fun w hw => h w _ hw⟩
  have hlook {α : Type} (f : Disk → Except IoFault α) (g : IoFault → Error) :
      Maintains P ((World.look f).mapError g) := .of_eq fun _ => rfl
  have hmanifest (path : Option Path) : Maintains P (Manifest.load path) := by
    cases path with
    | none => exact .bind (hlog ..) fun _ => .pure _
    | some path => exact .bind (hlook ..) fun _ => .bind (hlog ..) fun _ => .pure _
  have hmerge (g : Graph) : Maintains P (mergeRemotes g) := by
    have hall (events : List Event) (w : World) (hw : P w) : P (events.foldl World.record w) := by
      induction events generalizing w with
      | nil => exact hw
      | cons e rest ih => exact ih _ (h w e hw)
    exact ⟨fun w hw => hall _ w hw⟩
  exact .bind (.bind (hlog ..) fun _ => .bind (hlook ..) fun _ => .ofExcept _) fun g =>
    .bind (hmanifest _) fun _ => .bind (hmerge g) fun _ => .bind (hlog ..) fun _ =>
      .bind (hlog ..) fun _ => .pure _

/-- The visits of a run until it writes its graph. -/
structure Opened (config : FetchConfig) (arbiter : Arbiter τ)
    (makeCloner : ClonerConfig → Step (Session τ) Error (Cloner τ)) (s : Session τ)
    (visits : List Visit) : Prop where
  /-- The visits are those of the run. -/
  watched : gather config arbiter.watched (watchedMaker makeCloner) (s.watching [])
    = ((gather config arbiter makeCloner s).1.map watchedGathering,
      (gather config arbiter makeCloner s).2.watching visits)
  opening : Opening config arbiter makeCloner s visits
  discreet : Discreet config s.world visits (gather config arbiter makeCloner s).2.world

theorem opened_of_error {e : Error} {w : World} (hread : readInputs config s.world = (.error e, w))
    (hdiscreet : Discreet config s.world [] w) : Opened config arbiter makeCloner s [] := by
  have hgather : gather config arbiter makeCloner s = (.error e, ⟨w, s.agent⟩) :=
    gather_of_readInputs_error hread
  refine ⟨?_, .idle ?_ ?_, ?_⟩
  · rw [hgather, gather_of_readInputs_error (s := s.watching []) hread]
    rfl
  · rw [hasWork_iff]
    rintro ⟨g, m, w', hok, -⟩
    cases hread.symm.trans hok
  · intro made g hok
    rw [hgather] at hok
    cases hok
  · rw [hgather]
    exact hdiscreet

theorem opened_of_idle {g : Graph} {m : Manifest} {w : World}
    (hread : readInputs config s.world = (.ok (g, m), w)) (hidle : g.unresolvedRunNodes = [])
    (hdiscreet : Discreet config s.world [] w) : Opened config arbiter makeCloner s [] := by
  have hgather : gather config arbiter makeCloner s
      = (.ok (none, g), ⟨w.record idleEvent, s.agent⟩) := gather_of_idle hread hidle
  refine ⟨?_, .idle ?_ ?_, ?_⟩
  · rw [hgather, gather_of_idle (s := s.watching []) hread hidle]
    rfl
  · rw [hasWork_iff]
    rintro ⟨g', m', w', hok, hne⟩
    cases hread.symm.trans hok
    exact hne hidle
  · intro made g' hok
    rw [hgather] at hok
    cases hok
    rfl
  · rw [hgather]
    exact hdiscreet.record _

/-- If no cloner can be made, to try so is the only visit. -/
theorem opened_of_unmade {g : Graph} {m : Manifest} {w : World} {e : Error} {s₁ : Session τ}
    (hread : readInputs config s.world = (.ok (g, m), w)) (hwork : g.unresolvedRunNodes ≠ [])
    (hdiscreet : Discreet config s.world [] w)
    (hmake : makeCloner config.cloner ⟨w.record workEvent, s.agent⟩ = (.error e, s₁)) :
    Opened config arbiter makeCloner s [⟨.make (.error e), w.record workEvent, s₁.world⟩] := by
  let v : Visit := ⟨.make (.error e), w.record workEvent, s₁.world⟩
  have hgather : gather config arbiter makeCloner s = (.error (e.asKind .clonerSetup), s₁) := by
    rw [gather_of_work _ _ hread hwork, bind_apply, prepare_of_error hmake, andThen_error]
  have hmake' : watchedMaker makeCloner config.cloner
      ⟨w.record workEvent, (s.watching []).agent⟩ = (.error e, s₁.watching [v]) :=
    watchedMaker_apply hmake []
  refine ⟨?_, .failed (hasWork_iff.mpr ⟨g, m, w, hread, hwork⟩) ?_, ?_⟩
  · rw [hgather, gather_of_work (s := s.watching []) _ _ hread hwork, bind_apply,
      prepare_of_error (s := ⟨w, (s.watching []).agent⟩) hmake', andThen_error]
    rfl
  · rw [hgather]
  · rw [hgather]
    exact Discreet.visit (v := v) (hdiscreet.record workEvent)

/-- Once a cloner was made, the nodes are resolved, for which questions are asked. -/
theorem opened_of_made (arbiter : Arbiter τ) {g : Graph} {m : Manifest} {w : World}
    {cloner : Cloner τ} {s₁ : Session τ}
    (hread : readInputs config s.world = (.ok (g, m), w)) (hwork : g.unresolvedRunNodes ≠ [])
    (hdiscreet : Discreet config s.world [] w)
    (hmake : makeCloner config.cloner ⟨w.record workEvent, s.agent⟩ = (.ok cloner, s₁)) :
    ∃ more, Opened config arbiter makeCloner s
      (⟨.make (.ok ()), w.record workEvent, s₁.world⟩ :: more) := by
  let v : Visit := ⟨.make (.ok ()), w.record workEvent, s₁.world⟩
  have hmake' : watchedMaker makeCloner config.cloner
      ⟨w.record workEvent, (s.watching []).agent⟩ = (.ok cloner.watched, s₁.watching [v]) :=
    watchedMaker_apply hmake []
  have hgather := gather_of_work arbiter makeCloner hread hwork
  have hgather' := gather_of_work (s := s.watching []) arbiter.watched (watchedMaker makeCloner) hread
    hwork
  rw [bind_apply, prepare_of_ok hmake] at hgather
  rw [bind_apply, prepare_of_ok (s := ⟨w, (s.watching []).agent⟩) hmake'] at hgather'
  -- the nodes are resolved as they are unwatched
  have hlifts : (contextOf config arbiter.watched m cloner.watched).Lifts Watched.agent
      (contextOf config arbiter m cloner) :=
    ⟨cloner.lifts_watched, arbiter.lifts_watched, rfl, rfl, rfl⟩
  have hrun := (mirrors_resolveWith hlifts config.runOptions g).run_forget (s₁.watching [v])
  rw [Session.mapAgent_watching] at hrun
  -- and for that only questions are asked
  have hstart : Visited config s.world [v] (s₁.watching [v]) :=
    ⟨[], rfl, fun _ hmem => absurd hmem List.not_mem_nil,
      Discreet.visit (v := v) (hdiscreet.record workEvent)⟩
  obtain ⟨more, hmore, hquery, hdiscreet'⟩ :=
    (maintains_resolveWith cloner arbiter m config.cloner.outDir config.cloneDeps g).of_run _ hstart
  change (resolveWith (contextOf config arbiter.watched m cloner.watched) config.runOptions g
    (s₁.watching [v])).2.visits = _ at hmore
  change Discreet config s.world _ (resolveWith (contextOf config arbiter.watched m
    cloner.watched) config.runOptions g (s₁.watching [v])).2.world at hdiscreet'
  generalize resolveWith (contextOf config arbiter.watched m cloner.watched) config.runOptions g
    (s₁.watching [v]) = r' at hrun hmore hdiscreet' hgather'
  rw [hrun] at hgather
  obtain ⟨r, t⟩ := r'
  have ht : t = (t.mapAgent Watched.agent).watching (v :: more) := by
    rw [← List.singleton_append, ← hmore]
    rfl
  refine ⟨more, ?_, .made (hasWork_iff.mpr ⟨g, m, w, hread, hwork⟩) hquery ?_, ?_⟩
  · rw [hgather, hgather', ht]
    rcases r with e | ⟨report, resolved⟩
    · rfl
    · rfl
  · intro made g' hok
    rw [hgather] at hok
    rcases r with e | ⟨report, resolved⟩
    · cases hok
    · cases hok
      exact Option.some_ne_none _
  · rw [hgather]
    rcases r with e | ⟨report, resolved⟩
    · exact hdiscreet'
    · exact hdiscreet'

/-- Every run has such visits. -/
theorem exists_opened (config : FetchConfig) (arbiter : Arbiter τ)
    (makeCloner : ClonerConfig → Step (Session τ) Error (Cloner τ)) (s : Session τ) :
    ∃ visits, Opened config arbiter makeCloner s visits := by
  have hdiscreet : Discreet config s.world [] (readInputs config s.world).2 :=
    (maintains_readInputs fun _ e h => h.record e).of_run s.world (.refl config s.world)
  rcases hread : readInputs config s.world with ⟨e | ⟨g, m⟩, w⟩
  · rw [hread] at hdiscreet
    exact ⟨_, opened_of_error hread hdiscreet⟩
  rw [hread] at hdiscreet
  by_cases hwork : g.unresolvedRunNodes = []
  · exact ⟨_, opened_of_idle hread hwork hdiscreet⟩
  rcases hmake : makeCloner config.cloner ⟨w.record workEvent, s.agent⟩ with ⟨e | cloner, s₁⟩
  · exact ⟨_, opened_of_unmade hread hwork hdiscreet hmake⟩
  · obtain ⟨more, hopened⟩ := opened_of_made arbiter hread hwork hdiscreet hmake
    exact ⟨_, hopened⟩

theorem Opening.not_isConvert {visits : List Visit}
    (h : Opening config arbiter makeCloner s visits) : ∀ v ∈ visits, ¬ v.request.IsConvert := by
  intro v hv
  cases h with
  | idle => cases hv
  | failed =>
    cases List.mem_singleton.mp hv
    exact id
  | made _ hrest =>
    rcases List.mem_cons.mp hv with rfl | hv
    · exact id
    · exact (hrest v hv).2

end RpmProvision
