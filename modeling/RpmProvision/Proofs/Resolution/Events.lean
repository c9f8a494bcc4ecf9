/-
What the stages of a node log.

Looking up providers and getting packages is logged for debugging only, unless the lookup fails and
nothing built later can help. The choice of an RPM logs errors only if it fails. None of these events
is one of the run itself.

* **`Quiet`** — a cloner that logs nothing, and an arbiter that logs events of its own at most;
* **`extends_resolveNode`** — what is logged for a node;
* **`extendsOk_resolveNode`** — what is logged for a node that is resolved;
* **`debug_of_lookup`** — what is logged for an implicit node whose lookup fails.
-/
import RpmProvision.Proofs.Resolution.Outcomes

namespace RpmProvision

open Step

variable {τ : Type}

/-- The log of a session. -/
def Session.events (s : Session τ) : List Event := s.world.events

theorem Session.extends_log {P : Event → Prop} {level : Level} {source : Source} {message : String}
    (h : P ⟨level, source, message⟩) :
    Extends Session.events P (Session.log (τ := τ) (ε := Error) level source message) := by
  refine ⟨fun s => ⟨[⟨level, source, message⟩], World.events_record .., fun e he => ?_⟩⟩
  rwa [List.mem_singleton.mp he]

namespace Resolution

/-- The log of a run. -/
def Progress.events (p : Progress τ) : List Event := p.session.events

/-- The cloner of a run logs nothing, and the arbiter logs foreign events only, none of which comes
from the run. -/
structure Quiet (ctx : Context τ) (foreign : Event → Prop) : Prop where
  whatProvides : ∀ r s, (ctx.cloner.whatProvides r s).2.events = s.events
  clonePackage : ∀ cloneDeps package s,
    (ctx.cloner.clonePackage cloneDeps package s).2.events = s.events
  contents : ∀ s, (ctx.cloner.contents s).2.events = s.events
  installable : ∀ rpms, Extends Session.events foreign (ctx.arbiter.installable rpms)
  source : ∀ e, foreign e → e.source ≠ .run

theorem Progress.extends_log {P : Event → Prop} {level : Level} {message : String}
    (h : P ⟨level, .node, message⟩) :
    Extends (Progress.events (τ := τ)) P (Progress.log level message) := by
  show Extends _ P (Progress.onSession (Session.log level .node message))
  exact (Session.extends_log h).within (fun _ => rfl) fun _ _ => rfl

variable {ctx : Context τ} {foreign : Event → Prop} (hquiet : Quiet ctx foreign)

include hquiet

/-! ### Providers -/

theorem extends_findProviders (n : Node) :
    Extends Session.events (fun e => e.source = .node ∧ (n.implicit → e.level = .debug))
      (findProviders ctx n) := by
  have hfailure (e : Error) : Extends (Session.events (τ := τ))
      (fun e => e.source = .node ∧ (n.implicit → e.level = .debug)) (logLookupFailure n e) :=
    Session.extends_log ⟨rfl, fun himplicit => if_pos himplicit⟩
  refine .bind (Session.extends_log ⟨rfl, fun _ => rfl⟩) fun _ => .bind ?_ fun _ => .pure _
  refine .mapError (.onError (.bind (.of_eq (hquiet.whatProvides _)) fun _ => ?_) hfailure)
  exact .of_eq fun _ => rfl

theorem extendsOk_findProviders (n : Node) :
    ExtendsOk Session.events (fun e => e.source = .node ∧ e.level = .debug)
      (findProviders ctx n) := by
  refine .bind (.of_extends (Session.extends_log ⟨rfl, rfl⟩)) fun _ =>
    .bind (.mapError (.onError (.of_extends ?_) _)) fun _ => .of_extends (.pure _)
  exact .bind (.of_eq (hquiet.whatProvides _)) fun _ => .of_eq fun _ => rfl

/-! ### Packages -/

theorem extends_fetch (package : String) :
    Extends Progress.events (fun e => e.source = .node ∧ e.level = .debug)
      (fetch ctx package) := by
  have hclone : Extends Session.events (fun e => e.source = .node ∧ e.level = .debug)
      (ctx.cloner.clonePackage ctx.cloneDeps package) := .of_eq (hquiet.clonePackage _ _)
  exact .bind (hclone.mapError.within (fun _ => rfl) fun _ _ => rfl) fun _ =>
    .bind (.of_eq fun _ => rfl) fun _ => Progress.extends_log ⟨rfl, rfl⟩

theorem extends_fetchMissing_events (packages : List String) :
    Extends Progress.events (fun e => e.source = .node ∧ e.level = .debug)
      (fetchMissing ctx packages) := by
  induction packages with
  | nil => exact .pure _
  | cons package rest ih =>
    refine .bind (.of_eq fun _ => rfl) fun fetched => ?_
    cases fetched with
    | true => exact ih
    | false => exact .bind (extends_fetch hquiet package) fun _ => ih

/-! ### The choice -/

theorem extends_chooseAmong (r : Requirement) (all : List Candidate) :
    Extends Session.events (fun e => e.source ≠ .run) (chooseAmong ctx r all) := by
  have hown {level : Level} {message : String} : Extends (Session.events (τ := τ))
      (fun e => e.source ≠ .run) (Session.log (ε := Error) level .selection message) :=
    Session.extends_log nofun
  refine .bind ?_ fun chosen => ?_
  · rw [Selection.choose_eq]
    refine .bind hown fun _ => .bind (.mapError (.onError ?_ fun _ => hown)) fun installable =>
      .bind ?_ fun _ => .of_eq fun _ => rfl
    · exact (hquiet.installable _).mono hquiet.source
    · match installable with
      | [] => exact hown
      | [_] => exact .of_eq fun _ => rfl
      | _ :: _ :: _ => exact hown
  · cases all.find? (·.rpm.sameAs chosen) with
    | none => exact .fail _
    | some _ => exact .pure _

/-- An error is logged about a choice only if there is none. -/
theorem extendsOk_chooseAmong (r : Requirement) (all : List Candidate) :
    ExtendsOk Session.events (fun e => e.source ≠ .run ∧ (e.level = .error → foreign e))
      (chooseAmong ctx r all) := by
  have hown (level : Level) (hlevel : level ≠ .error) {message : String} :
      ExtendsOk (Session.events (τ := τ)) (fun e => e.source ≠ .run ∧ (e.level = .error → foreign e))
        (Session.log (ε := Error) level .selection message) :=
    .of_extends (Session.extends_log ⟨nofun, fun h => absurd h hlevel⟩)
  refine .bind ?_ fun chosen => ?_
  · rw [Selection.choose_eq]
    refine .bind (hown .debug nofun) fun _ => .bind (.mapError (.onError (.of_extends ?_) _))
      fun installable => ?_
    · exact (hquiet.installable _).mono fun e he => ⟨hquiet.source e he, fun _ => he⟩
    · match installable with
      | [] =>
        -- no answer can be picked from, so that the choice fails
        refine ⟨fun h => ?_⟩
        obtain ⟨_, _, -, hpick⟩ := bind_eq_ok.mp h
        cases hpick
      | [_] => exact .of_extends (.of_eq fun _ => rfl)
      | _ :: _ :: _ => exact .bind (hown .warn nofun) fun _ => .of_extends (.of_eq fun _ => rfl)
  · cases all.find? (·.rpm.sameAs chosen) with
    | none => exact .fail _
    | some _ => exact .of_extends (.pure _)

theorem extends_choose_events (r : Requirement) (all : List Candidate) :
    Extends Session.events (fun e => e.source ≠ .run) (choose ctx r all) := by
  match all with
  | [] => exact extends_chooseAmong hquiet r []
  | [c] => exact .pure c
  | c :: d :: rest => exact extends_chooseAmong hquiet r (c :: d :: rest)

theorem extendsOk_choose (r : Requirement) (all : List Candidate) :
    ExtendsOk Session.events (fun e => e.source ≠ .run ∧ (e.level = .error → foreign e))
      (choose ctx r all) := by
  match all with
  | [] => exact extendsOk_chooseAmong hquiet r []
  | [c] => exact .of_extends (.pure c)
  | c :: d :: rest => exact extendsOk_chooseAmong hquiet r (c :: d :: rest)

omit hquiet in
theorem extends_settle (n : Node) (c : Candidate) :
    Extends Progress.events (fun e => e.source = .node ∧ e.level ≠ .error) (settle ctx n c) := by
  refine .bind (.of_eq fun _ => rfl) fun prebuilt => ?_
  dsimp only
  have hend (fromToolchain : Bool) (message : String) :
      Extends (Progress.events (τ := τ)) (fun e => e.source = .node ∧ e.level ≠ .error)
        (Progress.log .info message >>= fun _ =>
          pure (n.resolved c.rpm fromToolchain) : Step (Progress τ) Error Node) :=
    .bind (Progress.extends_log ⟨rfl, nofun⟩) fun _ => .pure _
  cases ctx.manifest.isPrebuiltToolchain c.rpm prebuilt with
  | true => exact .bind (Progress.extends_log ⟨rfl, nofun⟩) fun _ => hend ..
  | false => exact hend ..

/-! ### A node -/

theorem extends_resolveFrom_events (n : Node) (providers : List String) :
    Extends Progress.events (fun e => e.source ≠ .run) (resolveFrom ctx n providers) := by
  have hnode {P : Event → Prop} (e : Event) (he : e.source = .node ∧ P e) : e.source ≠ .run := by
    rw [he.1]
    nofun
  exact .bind ((extends_fetchMissing_events hquiet providers).mono hnode) fun _ =>
    .bind ((extends_choose_events hquiet _ _).within (fun _ => rfl) fun _ _ => rfl) fun c =>
      (extends_settle n c).mono hnode

theorem extendsOk_resolveFrom (n : Node) (providers : List String) :
    ExtendsOk Progress.events (fun e => e.source ≠ .run ∧ (e.level = .error → foreign e))
      (resolveFrom ctx n providers) := by
  have hnode (e : Event) (he : e.source = .node ∧ e.level ≠ .error) :
      e.source ≠ .run ∧ (e.level = .error → foreign e) := by
    refine ⟨?_, fun h => absurd h he.2⟩
    rw [he.1]
    nofun
  refine .bind (.of_extends ?_) fun _ =>
    .bind ((extendsOk_choose hquiet _ _).within (fun _ => rfl) fun _ _ => rfl) fun c =>
      .of_extends ((extends_settle n c).mono hnode)
  refine (extends_fetchMissing_events hquiet providers).mono fun e he => hnode e ⟨he.1, ?_⟩
  rw [he.2]
  nofun

/-- Events of a node do not come from the run. -/
theorem extends_resolveNode (n : Node) :
    Extends Progress.events (fun e => e.source ≠ .run) (resolveNode ctx n) := by
  by_cases hn : n.state = .unresolved
  · rw [resolveNode_eq ctx hn]
    refine .bind (Progress.extends_log nofun) fun _ => .bind ?_ fun providers =>
      extends_resolveFrom_events hquiet n providers
    refine ((extends_findProviders hquiet n).mono fun e he => ?_).within (fun _ => rfl)
      fun _ _ => rfl
    rw [he.1]
    nofun
  · rw [resolveNode_of_resolved ctx hn]
    exact .fail _

/-- Of the events of a node that is resolved none is an error, but for foreign ones. -/
theorem extendsOk_resolveNode (n : Node) :
    ExtendsOk Progress.events (fun e => e.source ≠ .run ∧ (e.level = .error → foreign e))
      (resolveNode ctx n) := by
  by_cases hn : n.state = .unresolved
  · rw [resolveNode_eq ctx hn]
    refine .bind (.of_extends (Progress.extends_log ⟨nofun, nofun⟩)) fun _ =>
      .bind ?_ fun providers => extendsOk_resolveFrom hquiet n providers
    refine ((extendsOk_findProviders hquiet n).mono fun e he => ?_).within (fun _ => rfl)
      fun _ _ => rfl
    rw [he.1, he.2]
    exact ⟨nofun, nofun⟩
  · rw [resolveNode_of_resolved ctx hn]
    exact .fail _

/-- If an implicit node fails for want of providers, only the lookup has logged, and quietly. -/
theorem debug_of_lookup {n : Node} (hn : n.state = .unresolved) (himplicit : n.implicit)
    {p p' : Progress τ} {e : Error} (h : resolveNode ctx n p = (.error e, p'))
    (he : e.kind = .providerLookup) :
    ∃ told, p'.events = p.events ++ told ∧ ∀ event ∈ told, event.level = .debug := by
  rw [resolveNode_of_unresolved ctx hn] at h
  obtain ⟨told, htold, hlevel⟩ := (extends_findProviders hquiet n).exists_more (begun n p.session)
  rcases hfound : findProviders ctx n (begun n p.session) with ⟨e₀ | providers, s⟩
  · rw [hfound] at h htold
    cases h
    obtain ⟨first, hfirst, hdebug⟩ : ∃ first, (begun n p.session).events = p.events ++ [first]
        ∧ first.level = .debug := ⟨_, World.events_record .., rfl⟩
    refine ⟨first :: told, ?_, fun event hevent => ?_⟩
    · show s.events = _
      rw [htold, hfirst, List.append_assoc]
      rfl
    · rcases List.mem_cons.mp hevent with rfl | hevent
      · exact hdebug
      · exact (hlevel event hevent).2 himplicit
  · -- the later stages fail in other ways
    rw [hfound, andThen_ok] at h
    have hkind := (fails_resolveFrom ctx n providers).of_error ⟨s, p.cache⟩ e (by rw [h])
    exact absurd he hkind

end Resolution

end RpmProvision
