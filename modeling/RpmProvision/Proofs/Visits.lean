/-
Runs whose visits to the outside are watched.

Whenever a run makes a cloner or asks one, and whenever it asks an arbiter, it leaves the world to
somebody else. A watched run notes each such visit, with the world before and after it, and does what
it does unwatched.

* **`Visit`** — a request with its answer, and the world before and after;
* **`Cloner.watched`**, **`Arbiter.watched`**, **`watchedMaker`** — collaborators that are watched;
* **`mirrors_resolveWith`** — a run over a graph with collaborators that know more, such as watched
  ones, is the run with the others;
* **`maintains_resolveWith`** — such a run only asks questions, and leaves the output alone.
-/
import RpmProvision.Fetch
import RpmProvision.Proofs.Disk.Apart
import RpmProvision.Proofs.Resolution.Invariant

namespace RpmProvision

open Step Resolution

variable {σ τ ε α : Type}

/-- A request to the outside with the answer to it: to make a cloner, or to answer a question. -/
inductive Request where
  | make (answer : Except Error Unit)
  | ask (exchange : Exchange)

namespace Request

/-- Whether a cloner was to be made. -/
def IsMake : Request → Prop
  | .make _ => True
  | .ask _ => False

/-- Whether packages were to be made a repository. -/
def IsConvert : Request → Prop
  | .ask (.convert _) => True
  | _ => False

end Request

/-- A request, and the world before and after it. -/
structure Visit where
  request : Request
  before : World
  after : World

/-- The state of collaborators that are watched, and the visits to them so far. -/
structure Watched (τ : Type) where
  agent : τ
  visits : List Visit

namespace Session

/-- The session after some visits. -/
def watching (s : Session τ) (visits : List Visit) : Session (Watched τ) :=
  ⟨s.world, ⟨s.agent, visits⟩⟩

/-- The visits so far. -/
def visits (s : Session (Watched τ)) : List Visit := s.agent.visits

@[simp] theorem mapAgent_watching (s : Session τ) (l : List Visit) :
    (s.watching l).mapAgent Watched.agent = s := rfl

@[simp] theorem visits_watching (s : Session τ) (l : List Visit) : (s.watching l).visits = l := rfl

end Session

/-- Make a request and note the visit. -/
def visiting (request : Except ε α → Request) (x : Step (Session τ) ε α) :
    Step (Session (Watched τ)) ε α := fun s =>
  ((x (s.mapAgent Watched.agent)).1, (x (s.mapAgent Watched.agent)).2.watching
    (s.visits ++ [⟨request (x (s.mapAgent Watched.agent)).1, s.world,
      (x (s.mapAgent Watched.agent)).2.world⟩]))

theorem visiting_watching {request : Except ε α → Request} {x : Step (Session τ) ε α}
    {s s' : Session τ} {r : Except ε α} (h : x s = (r, s')) (visits : List Visit) :
    visiting request x (s.watching visits)
      = (r, s'.watching (visits ++ [⟨request r, s.world, s'.world⟩])) := by
  rw [visiting, Session.mapAgent_watching, h]
  rfl

/-- The cloner that is watched. -/
def Cloner.watched (c : Cloner τ) : Cloner (Watched τ) where
  whatProvides r := visiting (fun a => .ask (.lookup r a)) (c.whatProvides r)
  clonePackage deps package :=
    visiting (fun a => .ask (.clone deps package a)) (c.clonePackage deps package)
  convert := visiting (fun a => .ask (.convert a)) c.convert
  contents s := ((c.contents (s.mapAgent Watched.agent)).1,
    (c.contents (s.mapAgent Watched.agent)).2.watching
      (s.visits ++ [⟨.ask (.contents (c.contents (s.mapAgent Watched.agent)).1), s.world,
        (c.contents (s.mapAgent Watched.agent)).2.world⟩]))
  restore summary := visiting (fun a => .ask (.restore summary a)) (c.restore summary)

/-- The arbiter that is watched. -/
def Arbiter.watched (a : Arbiter τ) : Arbiter (Watched τ) where
  installable candidates :=
    visiting (fun answer => .ask (.judge candidates answer)) (a.installable candidates)

/-- The making of a cloner that is watched, as the cloner is. -/
def watchedMaker (makeCloner : ClonerConfig → Step (Session τ) Error (Cloner τ))
    (config : ClonerConfig) : Step (Session (Watched τ)) Error (Cloner (Watched τ)) :=
  Cloner.watched <$> visiting (fun a => .make (a.map fun _ => ())) (makeCloner config)

theorem watchedMaker_apply {makeCloner : ClonerConfig → Step (Session τ) Error (Cloner τ)}
    {config : ClonerConfig} {s s' : Session τ} {r : Except Error (Cloner τ)}
    (h : makeCloner config s = (r, s')) (visits : List Visit) :
    watchedMaker makeCloner config (s.watching visits) = (r.map Cloner.watched,
      s'.watching (visits ++ [⟨.make (r.map fun _ => ()), s.world, s'.world⟩])) := by
  unfold watchedMaker
  rw [map_apply, visiting_watching h]

theorem Cloner.lifts_watched (c : Cloner τ) : c.watched.Lifts Watched.agent c where
  whatProvides _ := ⟨fun _ => rfl⟩
  clonePackage _ _ := ⟨fun _ => rfl⟩
  convert := ⟨fun _ => rfl⟩
  contents _ := rfl
  restore _ := ⟨fun _ => rfl⟩

theorem Arbiter.lifts_watched (a : Arbiter τ) : a.watched.Lifts Watched.agent a :=
  ⟨fun _ => ⟨fun _ => rfl⟩⟩

/-! ### The output of a run -/

/-- The output of a run is kept apart: it ends up at the location, if anywhere, and neither the
summary nor the log goes there. -/
structure Clear (config : FetchConfig) (l : Location) (w : World) : Prop where
  apart : w.disk.Apart config.outputGraph config.outputSummary l
  log : ∀ f, w.logFile = some f → f.location ≠ l

/-- The visitor leaves the output at the location alone, and leaves it apart. -/
structure Visit.Leaves (config : FetchConfig) (l : Location) (v : Visit) : Prop where
  untouched : Disk.Untouched l v.before.disk v.after.disk
  clear : Clear config l v.before → Clear config l v.after

/-- The world has become another one without the output having been touched, but by visitors. -/
def Discreet (config : FetchConfig) (w : World) (visits : List Visit) (w' : World) : Prop :=
  ∀ l, Clear config l w → (∀ v ∈ visits, v.Leaves config l) →
    Clear config l w' ∧ Disk.Untouched l w.disk w'.disk

variable {config : FetchConfig}

theorem Clear.record {l : Location} {w : World} (h : Clear config l w) (e : Event) :
    Clear config l (w.record e) where
  apart := h.apart.alike (w.alike_record e)
  log f hf := by
    obtain ⟨f₀, hf₀, hl⟩ := World.logFile_record hf
    rw [hl]
    exact h.log f₀ hf₀

namespace Discreet

variable {w w' : World} {visits : List Visit}

theorem refl (config : FetchConfig) (w : World) : Discreet config w [] w :=
  fun l h _ => ⟨h, .refl l w.disk⟩

theorem record (h : Discreet config w visits w') (e : Event) :
    Discreet config w visits (w'.record e) := by
  intro l hclear hvisits
  obtain ⟨hclear', huntouched⟩ := h l hclear hvisits
  exact ⟨hclear'.record e, huntouched.trans (World.untouched_record hclear'.log e)⟩

/-- One more visit. -/
theorem visit {v : Visit} (h : Discreet config w visits v.before) :
    Discreet config w (visits ++ [v]) v.after := by
  intro l hclear hvisits
  obtain ⟨hclear', huntouched⟩ := h l hclear fun v' hv' => hvisits v' (List.mem_append_left _ hv')
  have hleaves : v.Leaves config l := hvisits v (List.mem_append_right _ List.mem_cons_self)
  exact ⟨hleaves.clear hclear', huntouched.trans hleaves.untouched⟩

/-- The summary of the run is saved elsewhere. -/
theorem save (h : Discreet config w visits w') (summary : Summary) {path : Path}
    (hpath : config.outputSummary = some path) :
    Discreet config w visits (summary.save path w').2 := by
  intro l hclear hvisits
  obtain ⟨hclear', huntouched⟩ := h l hclear hvisits
  obtain ⟨hapart, hwritten⟩ :=
    hclear'.apart.write hpath (Text.Utf8.encode summary.render)
  exact ⟨⟨hapart, hclear'.log⟩, huntouched.trans hwritten⟩

end Discreet

/-! ### The visits of a run over a graph -/

/-- The session has come about by visits, first some given ones and then questions other than to
make a repository, and the output was not touched but by visitors. -/
def Visited (config : FetchConfig) (w : World) (visits : List Visit) (s : Session (Watched τ)) :
    Prop :=
  ∃ more, s.visits = visits ++ more
    ∧ (∀ v ∈ more, ¬ v.request.IsMake ∧ ¬ v.request.IsConvert)
    ∧ Discreet config w (visits ++ more) s.world

variable {w : World} {visits : List Visit}

theorem Visited.record {s : Session (Watched τ)} (h : Visited config w visits s) (e : Event) :
    Visited config w visits ⟨s.world.record e, s.agent⟩ := by
  obtain ⟨more, hmore, hquery, hdiscreet⟩ := h
  exact ⟨more, hmore, hquery, hdiscreet.record e⟩

theorem Visited.visit {s : Session (Watched τ)} {s' : Session τ} {request : Request}
    (h : Visited config w visits s) (hquery : ¬ request.IsMake ∧ ¬ request.IsConvert) :
    Visited config w visits (s'.watching (s.visits ++ [⟨request, s.world, s'.world⟩])) := by
  obtain ⟨more, hmore, hqueries, hdiscreet⟩ := h
  refine ⟨more ++ [⟨request, s.world, s'.world⟩], ?_, ?_, ?_⟩
  · rw [Session.visits_watching, hmore, List.append_assoc]
  · intro v hv
    rcases List.mem_append.mp hv with hv | hv
    · exact hqueries v hv
    · cases List.mem_singleton.mp hv
      exact hquery
  · rw [← List.append_assoc]
    exact hdiscreet.visit

theorem maintains_log (level : Level) (source : Source) (message : String) :
    Maintains (Visited (τ := τ) config w visits) (Session.log (ε := ε) level source message) :=
  ⟨fun _ hs => hs.record _⟩

theorem Cloner.maintains_saveContents (c : Cloner τ) {path : Path}
    (hpath : config.outputSummary = some path) :
    Maintains (Visited config w visits) (c.watched.saveContents path) := by
  refine .bind ⟨fun s hs => hs.visit ?_⟩ fun summary => .bind ⟨fun s hs => ?_⟩ fun _ =>
    maintains_log ..
  · exact ⟨id, id⟩
  · obtain ⟨more, hmore, hquery, hdiscreet⟩ := hs
    exact ⟨more, hmore, hquery, hdiscreet.save summary hpath⟩

theorem Cloner.maintains_restoreContents (c : Cloner τ) (path : Path) :
    Maintains (Visited config w visits) (c.watched.restoreContents path) := by
  have hload : Maintains (Visited (τ := τ) config w visits) (Session.onWorld (Summary.load path)) := by
    refine ⟨fun s hs => ?_⟩
    have hworld : (Summary.load path s.world).2 = s.world := by
      refine (Maintains.bind (.of_eq fun _ => rfl) fun text => ?_).of_run s.world
        (P := fun w => w = s.world) rfl
      cases Summary.parse? text with
      | none => exact .fail _
      | some summary =>
        dsimp only
        split_ifs
        · exact .pure _
        · exact .fail _
    show Visited config w visits ⟨(Summary.load path s.world).2, s.agent⟩
    rw [hworld]
    exact hs
  exact .bind hload fun summary =>
    .bind (.mapError ⟨fun s hs => hs.visit ⟨id, id⟩⟩) fun _ => maintains_log ..

/-- A run over a graph asks its cloner and its arbiter, and leaves the output alone. -/
theorem maintains_resolveWith (c : Cloner τ) (a : Arbiter τ) (manifest : Manifest) (outDir : Path)
    (cloneDeps : Bool) (g : Graph) :
    Maintains (Visited config w visits)
      (resolveWith ⟨c.watched, a.watched, manifest, outDir, cloneDeps⟩ config.runOptions g) := by
  have hkept : Kept (⟨c.watched, a.watched, manifest, outDir, cloneDeps⟩ : Context (Watched τ))
      fun p => Visited config w visits p.session :=
    .of_session (fun e s hs => hs.record e) (fun _ => ⟨fun s hs => hs.visit ⟨id, id⟩⟩)
      (fun _ => ⟨fun s hs => hs.visit ⟨id, id⟩⟩) fun _ => ⟨fun s hs => hs.visit ⟨id, id⟩⟩
  have hsave (cache : Cache) (path : Path) (hpath : config.outputSummary = some path) :
      Maintains (fun s : Session (Watched τ) => Visited config w visits s)
        (c.watched.saveContents path) := c.maintains_saveContents hpath
  refine ⟨fun s hs => ?_⟩
  cases hin : config.inputSummary with
  | none => exact hkept.resolveGraph hsave hin hs
  | some path =>
    exact (hkept.resolveGraph_of_inputSummary hsave
      (fun _ => c.maintains_restoreContents path) hin).of_run ⟨g, s, .empty⟩ hs

/-! ### Whole runs -/

theorem mirrors_resolveWith {f : σ → τ} {ctx' : Context σ} {ctx : Context τ} (h : ctx'.Lifts f ctx)
    (options : RunOptions) (g : Graph) :
    Mirrors (Session.mapAgent f) (resolveWith ctx' options g) (resolveWith ctx options g) := by
  refine ⟨fun s => ?_⟩
  have hrun : resolveGraph ctx options ⟨g, s.mapAgent f, .empty⟩ = _ :=
    (h.resolveGraph options).run_forget ⟨g, s, .empty⟩
  unfold resolveWith
  rw [hrun]
  rfl

end RpmProvision
