/-
The course of a run.

A run makes a cloner only if there is work, and then before anything else. It asks questions while it
resolves the graph, writes the graph, and has the packages made a repository at last. Its output is
written in one step or left as it was, and the kind of an error tells where the run has stopped.

* **`Ending`** — how a run ends;
* **`StopsIn`** — the stage in which it stops, and the error that it stops with;
* **`course_fetchPackages`** — how the visits of a run, its result and its output are related.
-/
import RpmProvision.Proofs.Opening

namespace RpmProvision

open Step Resolution

variable {τ : Type} {config : FetchConfig} {arbiter : Arbiter τ}
  {makeCloner : ClonerConfig → Step (Session τ) Error (Cloner τ)} {s : Session τ}

/-! ### How a run ends -/

/-- The end of a run after some visits: it gathers nothing to write; or saving the graph fails; or it
has written a graph without work; or it has written a graph and made a repository, or failed to. -/
inductive Ending (config : FetchConfig) (arbiter : Arbiter τ)
    (makeCloner : ClonerConfig → Step (Session τ) Error (Cloner τ)) (s : Session τ)
    (visits : List Visit) : Except Error (Option Report) → Session τ → List Visit → Prop
  | stopped {e : Error} {s₁ : Session τ}
      (hgather : gather config arbiter makeCloner s = (.error e, s₁)) :
      Ending config arbiter makeCloner s visits (.error e) s₁ visits
  | unwritten {made : Option (Cloner τ × Report)} {g : Graph} {s₁ : Session τ} {e : Error}
      {w : World} (hgather : gather config arbiter makeCloner s = (.ok (made, g), s₁))
      (hsave : g.save config.outputGraph s₁.world = (.error e, w)) :
      Ending config arbiter makeCloner s visits (.error e) ⟨w, s₁.agent⟩ visits
  | idle {g : Graph} {s₁ : Session τ} {w : World}
      (hgather : gather config arbiter makeCloner s = (.ok (none, g), s₁))
      (hsave : g.save config.outputGraph s₁.world = (.ok (), w)) :
      Ending config arbiter makeCloner s visits (.ok none) ⟨w, s₁.agent⟩ visits
  | converted {cloner : Cloner τ} {report : Report} {g : Graph} {s₁ t : Session τ} {w : World}
      {answer : Except Error Unit}
      (hgather : gather config arbiter makeCloner s = (.ok (some (cloner, report), g), s₁))
      (hsave : g.save config.outputGraph s₁.world = (.ok (), w))
      (hconvert : cloner.convert ⟨w.record (wroteEvent config g), s₁.agent⟩ = (answer, t)) :
      Ending config arbiter makeCloner s visits
        ((answer.mapError (Error.asKind .repositoryConversion)).map fun _ => some report) t
        (visits ++ [⟨.ask (.convert answer), w.record (wroteEvent config g), t.world⟩])

/-- A run ends in one of these ways, and watched it is the same run. -/
theorem Opened.ending {result : Except Error (Option Report)} {s' : Session τ} {visits : List Visit}
    (hopened : Opened config arbiter makeCloner s visits)
    (h : fetchPackages config arbiter makeCloner s = (result, s')) :
    ∃ all, fetchPackages config arbiter.watched (watchedMaker makeCloner) (s.watching [])
        = (result, s'.watching all)
      ∧ Ending config arbiter makeCloner s visits result s' all := by
  rw [fetchPackages_eq, bind_apply] at h
  rw [fetchPackages_eq, bind_apply, hopened.watched]
  rcases hgather : gather config arbiter makeCloner s with ⟨e | ⟨made, g⟩, s₁⟩
  · rw [hgather, andThen_error] at h
    cases h
    exact ⟨visits, rfl, .stopped hgather⟩
  rw [hgather, andThen_ok] at h
  show ∃ all, commit config (watchedGathering (made, g)) (s₁.watching visits) = _ ∧ _
  rcases hsave : g.save config.outputGraph s₁.world with ⟨e | _, w⟩
  · rw [commit_of_error hsave] at h
    cases h
    exact ⟨visits, commit_of_error hsave, .unwritten hgather hsave⟩
  · match made with
    | none =>
      rw [commit_none hsave] at h
      cases h
      exact ⟨visits, commit_none hsave, .idle hgather hsave⟩
    | some (cloner, report) =>
      rcases hconvert : cloner.convert ⟨w.record (wroteEvent config g), s₁.agent⟩ with ⟨answer, t⟩
      rw [commit_some hsave hconvert] at h
      cases h
      have hconvert' : visiting (fun a => .ask (.convert a)) cloner.convert _ = _ :=
        visiting_watching hconvert visits
      exact ⟨_, commit_some (s := s₁.watching visits) hsave hconvert',
        .converted hgather hsave hconvert⟩

/-! ### Where a run stops -/

/-- The stages of a run. -/
inductive Stage where
  | readGraph
  | readManifest
  | setUp
  | resolve
  | write
  | convert
  deriving DecidableEq

/-- The stage of a run that errors of a kind come from. -/
def ErrorKind.stage? : ErrorKind → Option Stage
  | .graphRead => some .readGraph
  | .manifestRead => some .readManifest
  | .clonerSetup => some .setUp
  | .io | .summaryRestore | .summarySave | .stopOnFailure => some .resolve
  | .graphWrite => some .write
  | .repositoryConversion => some .convert
  | _ => none

theorem stage?_of_endsRun {e : Error} (h : EndsRun e) : e.kind.stage? = some .resolve := by
  rcases h with h | h | h | h <;> rw [h] <;> rfl

/-- The stages before this one succeed, and this one fails with the error. -/
inductive StopsIn (config : FetchConfig) (arbiter : Arbiter τ)
    (makeCloner : ClonerConfig → Step (Session τ) Error (Cloner τ)) (s : Session τ) :
    Stage → Error → Prop
  | readGraph {e : Error} {w : World}
      (hgraph : Graph.load config.inputGraph s.world = (.error e, w)) :
      StopsIn config arbiter makeCloner s .readGraph e
  | readManifest {g : Graph} {w₁ w₂ : World} {e : Error}
      (hgraph : Graph.load config.inputGraph s.world = (.ok g, w₁))
      (hmanifest : Manifest.load config.manifest w₁ = (.error e, w₂)) :
      StopsIn config arbiter makeCloner s .readManifest e
  | setUp {g : Graph} {m : Manifest} {w : World} {e : Error} {s₁ : Session τ}
      (hread : readInputs config s.world = (.ok (g, m), w)) (hwork : g.unresolvedRunNodes ≠ [])
      (hmake : makeCloner config.cloner ⟨w.record workEvent, s.agent⟩ = (.error e, s₁)) :
      StopsIn config arbiter makeCloner s .setUp (e.asKind .clonerSetup)
  | resolve {g : Graph} {m : Manifest} {w : World} {cloner : Cloner τ} {s₁ s₂ : Session τ}
      {e : Error} (hread : readInputs config s.world = (.ok (g, m), w))
      (hwork : g.unresolvedRunNodes ≠ [])
      (hmake : makeCloner config.cloner ⟨w.record workEvent, s.agent⟩ = (.ok cloner, s₁))
      (hresolve : resolveWith (contextOf config arbiter m cloner) config.runOptions g s₁
        = (.error e, s₂)) :
      StopsIn config arbiter makeCloner s .resolve e
  | write {made : Option (Cloner τ × Report)} {g : Graph} {s₁ : Session τ} {e : Error} {w : World}
      (hgather : gather config arbiter makeCloner s = (.ok (made, g), s₁))
      (hsave : g.save config.outputGraph s₁.world = (.error e, w)) :
      StopsIn config arbiter makeCloner s .write e
  | convert {cloner : Cloner τ} {report : Report} {g : Graph} {s₁ t : Session τ} {w : World}
      {e : Error} (hgather : gather config arbiter makeCloner s = (.ok (some (cloner, report), g), s₁))
      (hsave : g.save config.outputGraph s₁.world = (.ok (), w))
      (hconvert : cloner.convert ⟨w.record (wroteEvent config g), s₁.agent⟩ = (.error e, t)) :
      StopsIn config arbiter makeCloner s .convert (e.asKind .repositoryConversion)

theorem Graph.kind_of_save {g : Graph} {path : Path} {w w' : World} {e : Error}
    (h : g.save path w = (.error e, w')) :
    e.kind = .graphWrite ∧ w' = w.record (writingEvent path) := by
  rcases Graph.save_cases g path w with ⟨detail, hsave⟩ | ⟨l, -, hsave⟩
  · cases h.symm.trans hsave
    exact ⟨rfl, rfl⟩
  · cases h.symm.trans hsave

/-- A run that gathers nothing to write stops in one of the first four stages. -/
theorem stopsIn_of_gather {e : Error} {s₁ : Session τ}
    (h : gather config arbiter makeCloner s = (.error e, s₁)) :
    ∃ stage, stage ≠ .convert ∧ e.kind.stage? = some stage
      ∧ StopsIn config arbiter makeCloner s stage e := by
  rcases hread : readInputs config s.world with ⟨e' | ⟨g, m⟩, w⟩
  · cases h.symm.trans (gather_of_readInputs_error hread)
    rcases readInputs_eq_error hread with ⟨w₁, hgraph⟩ | ⟨g, w₁, w₂, hgraph, hmanifest⟩
    · have hkind := (Graph.fails_load config.inputGraph).of_error s.world e (by rw [hgraph])
      exact ⟨.readGraph, by decide, by rw [hkind]; rfl, .readGraph hgraph⟩
    · have hkind := (Manifest.fails_load config.manifest).of_error w₁ e (by rw [hmanifest])
      exact ⟨.readManifest, by decide, by rw [hkind]; rfl, .readManifest hgraph hmanifest⟩
  by_cases hwork : g.unresolvedRunNodes = []
  · cases h.symm.trans (gather_of_idle hread hwork)
  rw [gather_of_work _ _ hread hwork, bind_apply] at h
  rcases hmake : makeCloner config.cloner ⟨w.record workEvent, s.agent⟩ with ⟨e' | cloner, s₂⟩
  · rw [prepare_of_error hmake, andThen_error] at h
    cases h
    exact ⟨.setUp, by decide, by rw [asKind_kind]; rfl, .setUp hread hwork hmake⟩
  · rw [prepare_of_ok hmake] at h
    rcases hresolve : resolveWith (contextOf config arbiter m cloner) config.runOptions g s₂
      with ⟨e' | r, s₃⟩
    · rw [hresolve] at h
      cases h
      refine ⟨.resolve, by decide, ?_, .resolve hread hwork hmake hresolve⟩
      exact stage?_of_endsRun ((fails_resolveWith _ _ _).of_error s₂ e (by rw [hresolve]))
    · rw [hresolve] at h
      cases h

/-! ### What comes of the output -/

/-- The run gathers the graph, and writes it. -/
def Writes (config : FetchConfig) (arbiter : Arbiter τ)
    (makeCloner : ClonerConfig → Step (Session τ) Error (Cloner τ)) (s : Session τ) (g : Graph) :
    Prop :=
  ∃ made s₁ w, gather config arbiter makeCloner s = (.ok (made, g), s₁)
    ∧ g.save config.outputGraph s₁.world = (.ok (), w)

/-- The run has succeeded, or has failed to make a repository. -/
def Committed : Except Error (Option Report) → Prop
  | .ok _ => True
  | .error e => e.kind = .repositoryConversion

/-- A graph that is written stands where the output is kept apart, and the log still goes elsewhere. -/
theorem holds_of_save {l : Location} {g : Graph} {w w' : World} (hclear : Clear config l w)
    (h : g.save config.outputGraph w = (.ok (), w')) :
    w'.disk.entryAt l = some (.file (Text.Utf8.encode g.render))
      ∧ ∀ f, w'.logFile = some f → f.location ≠ l := by
  obtain ⟨l', htarget, hholds, hlog, -⟩ := Graph.stands_of_save h
  obtain rfl : l' = l := (hclear.record _).apart.output l' htarget
  exact ⟨hholds, hlog⟩

/-- How the visits of a run, its result and the output are related. -/
structure Course (config : FetchConfig) (arbiter : Arbiter τ)
    (makeCloner : ClonerConfig → Step (Session τ) Error (Cloner τ)) (s : Session τ)
    (result : Except Error (Option Report)) (s' : Session τ) (visits : List Visit) : Prop where
  /-- With work a cloner is made, first of all and once. -/
  made : HasWork config s.world → ∃ v rest, visits = v :: rest ∧ v.request.IsMake
    ∧ ∀ v' ∈ rest, ¬ v'.request.IsMake
  /-- Without work nothing is asked. -/
  unmade : ¬ HasWork config s.world → visits = []
  setUp_error : ∀ v ∈ visits, ∀ e, v.request = .make (.error e) →
    visits = [v] ∧ result = .error (e.asKind .clonerSetup)
  writes_iff : (∃ g, Writes config arbiter makeCloner s g) ↔ Committed result
  /-- A repository is made if a cloner was made and the graph written. -/
  converts_iff : (∃ v ∈ visits, v.request.IsConvert) ↔
    (∃ v ∈ visits, v.request = .make (.ok ())) ∧ ∃ g, Writes config arbiter makeCloner s g
  /-- The repository is made last, and so once. -/
  convert_last : ∀ before v after, visits = before ++ v :: after → v.request.IsConvert →
    after = [] ∧ ∀ v' ∈ before, ¬ v'.request.IsConvert
  convert_error : ∀ v ∈ visits, ∀ e, v.request = .ask (.convert (.error e)) →
    result = .error (e.asKind .repositoryConversion)
  /-- The kind of the error tells the stage. -/
  stopsIn : ∀ e, result = .error e → ∃ stage, e.kind.stage? = some stage
    ∧ StopsIn config arbiter makeCloner s stage e
  /-- No error concerns the parts of the graph. -/
  kind_ne_graph : ∀ e, result = .error e → e.kind ≠ .graph
  /-- A graph that is written stands in the end, and when the repository is made. -/
  written : ∀ g, Writes config arbiter makeCloner s g → ∀ l, Clear config l s.world →
    (∀ v ∈ visits, v.Leaves config l) →
      s'.world.disk.entryAt l = some (.file (Text.Utf8.encode g.render))
        ∧ ∀ v ∈ visits, v.request.IsConvert →
          v.before.disk.entryAt l = some (.file (Text.Utf8.encode g.render))
  /-- If no graph is written, the output is what it was. -/
  untouched : (¬ ∃ g, Writes config arbiter makeCloner s g) → ∀ l, Clear config l s.world →
    (∀ v ∈ visits, v.Leaves config l) → Disk.Untouched l s.world.disk s'.world.disk

section Ending

variable {result : Except Error (Option Report)} {s' : Session τ} {visits all : List Visit}

theorem Ending.stopsIn {e : Error} (h : Ending config arbiter makeCloner s visits (.error e) s' all) :
    ∃ stage, e.kind.stage? = some stage ∧ StopsIn config arbiter makeCloner s stage e := by
  generalize hresult : (Except.error e : Except Error (Option Report)) = result at h
  cases h with
  | stopped hgather =>
    cases hresult
    obtain ⟨stage, -, hstage, hstops⟩ := stopsIn_of_gather hgather
    exact ⟨stage, hstage, hstops⟩
  | unwritten hgather hsave =>
    cases hresult
    exact ⟨.write, by rw [(Graph.kind_of_save hsave).1]; rfl, .write hgather hsave⟩
  | idle => cases hresult
  | @converted _ _ _ _ _ _ answer hgather hsave hconvert =>
    cases answer with
    | ok _ => cases hresult
    | error e' =>
      cases hresult
      exact ⟨.convert, by rw [asKind_kind]; rfl, .convert hgather hsave hconvert⟩

/-- A graph is written if the run succeeds or fails to make a repository, and only then. -/
theorem Ending.writes_iff (h : Ending config arbiter makeCloner s visits result s' all) :
    (∃ g, Writes config arbiter makeCloner s g) ↔ Committed result := by
  cases h with
  | stopped hgather =>
    obtain ⟨stage, hne, hstage, -⟩ := stopsIn_of_gather hgather
    refine iff_of_false ?_ fun hkind => ?_
    · rintro ⟨g, made, s₂, w, hok, -⟩
      cases hgather.symm.trans hok
    · change _ = ErrorKind.repositoryConversion at hkind
      rw [hkind] at hstage
      cases hstage
      exact hne rfl
  | unwritten hgather hsave =>
    refine iff_of_false ?_ fun hkind => ?_
    · rintro ⟨g, made, s₂, w, hok, hsave'⟩
      cases hgather.symm.trans hok
      cases hsave.symm.trans hsave'
    · change _ = ErrorKind.repositoryConversion at hkind
      rw [(Graph.kind_of_save hsave).1] at hkind
      cases hkind
  | idle hgather hsave => exact iff_of_true ⟨_, _, _, _, hgather, hsave⟩ trivial
  | @converted _ _ _ _ _ _ answer hgather hsave hconvert =>
    refine iff_of_true ⟨_, _, _, _, hgather, hsave⟩ ?_
    cases answer with
    | ok _ => trivial
    | error e => exact asKind_kind _ e

theorem Ending.written (h : Ending config arbiter makeCloner s visits result s' all)
    (hvisits : ∀ v ∈ visits, ¬ v.request.IsConvert)
    (hdiscreet : Discreet config s.world visits (gather config arbiter makeCloner s).2.world)
    {g : Graph} (hwrites : Writes config arbiter makeCloner s g) {l : Location}
    (hclear : Clear config l s.world) (hleaves : ∀ v ∈ all, v.Leaves config l) :
    s'.world.disk.entryAt l = some (.file (Text.Utf8.encode g.render))
      ∧ ∀ v ∈ all, v.request.IsConvert →
        v.before.disk.entryAt l = some (.file (Text.Utf8.encode g.render)) := by
  obtain ⟨made, s₂, w₂, hok, hsaved⟩ := hwrites
  cases h with
  | stopped hgather => cases hgather.symm.trans hok
  | unwritten hgather hsave =>
    cases hgather.symm.trans hok
    cases hsave.symm.trans hsaved
  | idle hgather hsave =>
    cases hgather.symm.trans hok
    cases hsave.symm.trans hsaved
    rw [hok] at hdiscreet
    obtain ⟨hclear₂, -⟩ := hdiscreet l hclear hleaves
    exact ⟨(holds_of_save hclear₂ hsaved).1, fun v hv hconvert => absurd hconvert (hvisits v hv)⟩
  | converted hgather hsave hconvert =>
    cases hgather.symm.trans hok
    cases hsave.symm.trans hsaved
    rw [hok] at hdiscreet
    obtain ⟨hclear₂, -⟩ := hdiscreet l hclear fun v hv => hleaves v (List.mem_append_left _ hv)
    obtain ⟨hholds, hlog⟩ := holds_of_save hclear₂ hsaved
    -- the graph stands before the repository is made, and that leaves it alone
    have hbefore := (World.untouched_record hlog (wroteEvent config g)).1.trans hholds
    have hlast := (hleaves _ (List.mem_append_right _ List.mem_cons_self)).untouched.1
    refine ⟨hlast.trans hbefore, fun v hv hconvert => ?_⟩
    rcases List.mem_append.mp hv with hv | hv
    · exact absurd hconvert (hvisits v hv)
    · cases List.mem_singleton.mp hv
      exact hbefore

theorem Ending.untouched (h : Ending config arbiter makeCloner s visits result s' all)
    (hdiscreet : Discreet config s.world visits (gather config arbiter makeCloner s).2.world)
    (hwrites : ¬ ∃ g, Writes config arbiter makeCloner s g) {l : Location}
    (hclear : Clear config l s.world) (hleaves : ∀ v ∈ all, v.Leaves config l) :
    Disk.Untouched l s.world.disk s'.world.disk := by
  cases h with
  | stopped hgather =>
    rw [hgather] at hdiscreet
    exact (hdiscreet l hclear hleaves).2
  | unwritten hgather hsave =>
    rw [hgather] at hdiscreet
    rw [(Graph.kind_of_save hsave).2]
    exact (hdiscreet.record _ l hclear hleaves).2
  | idle hgather hsave => exact absurd ⟨_, _, _, _, hgather, hsave⟩ hwrites
  | converted hgather hsave => exact absurd ⟨_, _, _, _, hgather, hsave⟩ hwrites

variable (h : Ending config arbiter makeCloner s visits result s' all)

include h

/-- The visits are those before the graph is written, and perhaps one to make a repository. -/
theorem Ending.visits_eq : all = visits
    ∨ ∃ answer before after, all = visits ++ [⟨.ask (.convert answer), before, after⟩] := by
  cases h with
  | stopped => exact .inl rfl
  | unwritten => exact .inl rfl
  | idle => exact .inl rfl
  | converted => exact .inr ⟨_, _, _, rfl⟩

theorem Ending.convert_last (hvisits : ∀ v ∈ visits, ¬ v.request.IsConvert) {before after : List Visit}
    {v : Visit} (hall : all = before ++ v :: after) (hv : v.request.IsConvert) :
    after = [] ∧ ∀ v' ∈ before, ¬ v'.request.IsConvert := by
  have hout : v ∉ visits := fun hmem => hvisits v hmem hv
  rcases h.visits_eq with rfl | ⟨answer, w, w', rfl⟩
  · refine absurd ?_ hout
    rw [hall]
    exact List.mem_append_right _ List.mem_cons_self
  · rcases List.eq_nil_or_concat after with rfl | ⟨front, last, rfl⟩
    · obtain ⟨rfl, -⟩ := List.append_inj' hall rfl
      exact ⟨rfl, hvisits⟩
    · -- otherwise the visit is not the last one, and so is before the graph is written
      rw [List.concat_eq_append, ← List.cons_append, ← List.append_assoc] at hall
      obtain ⟨rfl, -⟩ := List.append_inj' hall rfl
      exact absurd (List.mem_append_right _ List.mem_cons_self) hout

theorem Ending.convert_error (hvisits : ∀ v ∈ visits, ¬ v.request.IsConvert) {v : Visit}
    (hv : v ∈ all) {e : Error} (he : v.request = .ask (.convert (.error e))) :
    result = .error (e.asKind .repositoryConversion) := by
  have hout : v ∉ visits := by
    intro hmem
    refine hvisits v hmem ?_
    rw [he]
    trivial
  cases h with
  | stopped => exact absurd hv hout
  | unwritten => exact absurd hv hout
  | idle => exact absurd hv hout
  | converted =>
    rcases List.mem_append.mp hv with hv | hv
    · exact absurd hv hout
    · cases List.mem_singleton.mp hv
      cases he
      rfl

variable (hopening : Opening config arbiter makeCloner s visits)

include hopening

theorem Ending.made (hwork : HasWork config s.world) : ∃ v rest, all = v :: rest
    ∧ v.request.IsMake ∧ ∀ v' ∈ rest, ¬ v'.request.IsMake := by
  obtain ⟨v, rest, rfl, hv, hrest⟩ : ∃ v rest, visits = v :: rest ∧ v.request.IsMake
      ∧ ∀ v' ∈ rest, ¬ v'.request.IsMake := by
    cases hopening with
    | idle hnot => exact absurd hwork hnot
    | failed => exact ⟨_, [], rfl, trivial, fun _ hmem => absurd hmem List.not_mem_nil⟩
    | made _ hrest => exact ⟨_, _, rfl, trivial, fun v hmem => (hrest v hmem).1⟩
  rcases h.visits_eq with rfl | ⟨answer, w, w', rfl⟩
  · exact ⟨v, rest, rfl, hv, hrest⟩
  · refine ⟨v, _, rfl, hv, fun v' hv' => ?_⟩
    rcases List.mem_append.mp hv' with hv' | hv'
    · exact hrest v' hv'
    · cases List.mem_singleton.mp hv'
      exact id

theorem Ending.unmade (hwork : ¬ HasWork config s.world) : all = [] := by
  cases hopening with
  | failed hhas => exact absurd hhas hwork
  | made hhas => exact absurd hhas hwork
  | idle _ hnone =>
    cases h with
    | stopped => rfl
    | unwritten => rfl
    | idle => rfl
    | converted hgather => cases hnone _ _ (by rw [hgather])

theorem Ending.setUp_error {v : Visit} (hv : v ∈ all) {e : Error}
    (he : v.request = .make (.error e)) :
    all = [v] ∧ result = .error (e.asKind .clonerSetup) := by
  have hmem : v ∈ visits := by
    rcases h.visits_eq with rfl | ⟨answer, w, w', rfl⟩
    · exact hv
    · rcases List.mem_append.mp hv with hv | hv
      · exact hv
      · cases List.mem_singleton.mp hv
        cases he
  cases hopening with
  | idle => cases hmem
  | made _ hrest =>
    rcases List.mem_cons.mp hmem with rfl | hmem
    · cases he
    · refine absurd ?_ (hrest v hmem).1
      rw [he]
      trivial
  | failed _ herror =>
    cases List.mem_singleton.mp hmem
    cases he
    cases h with
    | stopped hgather =>
      rw [hgather] at herror
      cases herror
      exact ⟨rfl, rfl⟩
    | unwritten hgather =>
      rw [hgather] at herror
      cases herror
    | idle hgather =>
      rw [hgather] at herror
      cases herror
    | converted hgather =>
      rw [hgather] at herror
      cases herror

/-- A repository is made if a cloner was made and the graph is written, and only then. -/
theorem Ending.converts_iff : (∃ v ∈ all, v.request.IsConvert) ↔
    (∃ v ∈ all, v.request = .make (.ok ())) ∧ ∃ g, Writes config arbiter makeCloner s g := by
  constructor
  · rintro ⟨v, hv, hconvert⟩
    have hout : v ∉ visits := fun hmem => hopening.not_isConvert v hmem hconvert
    cases h with
    | stopped => exact absurd hv hout
    | unwritten => exact absurd hv hout
    | idle => exact absurd hv hout
    | converted hgather hsave =>
      refine ⟨?_, _, _, _, _, hgather, hsave⟩
      cases hopening with
      | idle _ hnone => cases hnone _ _ (by rw [hgather])
      | failed _ herror =>
        rw [hgather] at herror
        cases herror
      | made => exact ⟨_, List.mem_cons_self, rfl⟩
  · rintro ⟨⟨v, hv, hmake⟩, g, made, s₁, w, hok, hsaved⟩
    cases h with
    | stopped hgather => cases hgather.symm.trans hok
    | unwritten hgather hsave =>
      cases hgather.symm.trans hok
      cases hsave.symm.trans hsaved
    | converted => exact ⟨_, List.mem_append_right _ List.mem_cons_self, trivial⟩
    | idle hgather =>
      -- without a cloner no cloner was made
      cases hopening with
      | idle => cases hv
      | failed _ herror =>
        rw [hgather] at herror
        cases herror
      | made _ _ hsome => exact absurd rfl (hsome _ _ (by rw [hgather]))

end Ending

/-- A run makes a cloner, first of all and once, exactly if its inputs can be read and a node wants
an RPM. It writes the graph that it has in the end exactly if it succeeds or fails to make a
repository, and leaves the output as it was otherwise. A repository is made exactly if a cloner was
made and the graph was written, after that, once, and last. The kind of an error tells the stage that
has failed. -/
theorem course_fetchPackages {result : Except Error (Option Report)} {s' : Session τ}
    (h : fetchPackages config arbiter makeCloner s = (result, s')) :
    ∃ visits, fetchPackages config arbiter.watched (watchedMaker makeCloner) (s.watching [])
        = (result, s'.watching visits)
      ∧ Course config arbiter makeCloner s result s' visits := by
  obtain ⟨visits, hopened⟩ := exists_opened config arbiter makeCloner s
  obtain ⟨all, hrun, hending⟩ := hopened.ending h
  have hopening := hopened.opening
  have hdiscreet := hopened.discreet
  have hvisits := hopening.not_isConvert
  refine ⟨all, hrun, ?_⟩
  exact {
    made := hending.made hopening
    unmade := hending.unmade hopening
    setUp_error := fun v hv e he => hending.setUp_error hopening hv he
    writes_iff := hending.writes_iff
    converts_iff := hending.converts_iff hopening
    convert_last := fun before v after => hending.convert_last hvisits
    convert_error := fun v hv e => hending.convert_error hvisits hv
    stopsIn := fun e he => (he ▸ hending).stopsIn
    kind_ne_graph := fun e he hkind => by
      obtain ⟨stage, hstage, -⟩ := (he ▸ hending).stopsIn
      rw [hkind] at hstage
      cases hstage
    written := fun g hwrites l hclear hleaves =>
      hending.written hvisits hdiscreet hwrites hclear hleaves
    untouched := fun hwrites l hclear hleaves =>
      hending.untouched hdiscreet hwrites hclear hleaves }

/-! ### A run on the shelf -/

theorem watched_shelf (events : List Event) : ∃ more visits,
    prepare shelfConfig (Arbiter.ofAnswers .ok).watched (watchedMaker fun _ => pure zlibCloner)
      (zlibAndRemote "curl").merged (.ofList ["zlib.rpm"])
      ((atShelf (zlibAndRemote "curl") events).watching [])
    = (.ok (zlibCloner.watched, zlibAndCurlReport, zlibAndCurlGot),
        (atShelf (zlibAndRemote "curl") more).watching visits)
    ∧ visits.map Visit.after = visits.map Visit.before :=
  ⟨_, _, rfl, rfl⟩

/-- A visitor that changes nothing leaves the output alone. -/
theorem Visit.leaves_of_eq {config : FetchConfig} {l : Location} {v : Visit} (h : v.after = v.before) :
    v.Leaves config l := by
  refine ⟨?_, ?_⟩
  · rw [h]
    exact .refl l _
  · rw [h]
    exact id

theorem course_zlibAndCurl : ∃ s' visits,
    fetchPackages shelfConfig (.ofAnswers .ok) (fun _ => pure zlibCloner)
        (atShelf (zlibAndRemote "curl") []) = (.ok (some zlibAndCurlReport), s')
      ∧ Course shelfConfig (.ofAnswers .ok) (fun _ => pure zlibCloner)
        (atShelf (zlibAndRemote "curl") []) (.ok (some zlibAndCurlReport)) s' visits
      ∧ Clear shelfConfig ["out.json"] (atShelf (zlibAndRemote "curl") []).world
      ∧ (∀ v ∈ visits, v.Leaves shelfConfig ["out.json"])
      ∧ s'.world.disk.entryAt ["out.json"]
        = some (.file (Text.Utf8.encode zlibAndCurlGot.render)) := by
  have hparse : Graph.parse (zlibAndRemote "curl").render = .ok (zlibAndRemote "curl") :=
    Graph.parse_render_of_build rfl
  have hwork : (zlibAndRemote "curl").merged.unresolvedRunNodes ≠ [] := by decide
  have hshelved : Shelved (zlibAndRemote "curl") zlibAndCurlReport zlibAndCurlGot :=
    fun _ => ⟨_, rfl⟩
  obtain ⟨s', hrun, -, -⟩ := fetchPackages_shelf hparse hwork hshelved
  obtain ⟨visits, hwatched, hcourse⟩ := course_fetchPackages hrun
  have hclear : Clear shelfConfig ["out.json"] (atShelf (zlibAndRemote "curl") []).world := by
    refine ⟨⟨fun l' hl' => ?_, fun p hp => by cases hp⟩, fun f hf => by cases hf⟩
    have htarget : (atShelf (zlibAndRemote "curl") []).world.disk.renameTarget
        shelfConfig.outputGraph = .ok ["out.json"] := rfl
    cases htarget.symm.trans hl'
    rfl
  obtain ⟨events, hread⟩ := readInputs_shelf hparse
  have hleaves : ∀ v ∈ visits, v.Leaves shelfConfig ["out.json"] := by
    obtain ⟨more, before, hprepare, hsame⟩ := watched_shelf events
    have hlast : ∃ w, visits = before ++ [⟨.ask (.convert (.ok ())), w, w⟩] := by
      rw [fetchPackages_of_readInputs (s := (atShelf (zlibAndRemote "curl") []).watching []) hread
        hwork, bind_apply] at hwatched
      change andThen _ (prepare shelfConfig _ _ _ _
        ((atShelf (zlibAndRemote "curl") events).watching [])) = _ at hwatched
      rw [hprepare, andThen_ok] at hwatched
      exact ⟨_, (congrArg (fun r => r.2.visits) hwatched).symm⟩
    obtain ⟨w, rfl⟩ := hlast
    intro v hv
    rcases List.mem_append.mp hv with hv | hv
    · exact Visit.leaves_of_eq (List.map_inj_left.mp hsame v hv)
    · cases List.mem_singleton.mp hv
      exact Visit.leaves_of_eq rfl
  have hwrites : Writes shelfConfig (.ofAnswers .ok) (fun _ => pure zlibCloner)
      (atShelf (zlibAndRemote "curl") []) zlibAndCurlGot := by
    obtain ⟨g, made, s₁, w, hgather, hsave⟩ := hcourse.writes_iff.mpr trivial
    obtain ⟨more, hprepare⟩ := hshelved events
    have hgot := hgather
    rw [gather_of_work _ _ hread hwork, bind_apply] at hgot
    change andThen _ (prepare shelfConfig _ _ _ _ (atShelf (zlibAndRemote "curl") events)) = _ at hgot
    rw [hprepare] at hgot
    cases hgot
    exact ⟨_, _, w, hgather, hsave⟩
  exact ⟨s', visits, hrun, hcourse, hclear, hleaves, (hcourse.written _ hwrites _ hclear hleaves).1⟩

end RpmProvision
