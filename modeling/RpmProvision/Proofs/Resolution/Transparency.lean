/-
What has been got before makes no difference to a node.

Suppose that the answers of the cloner and of the arbiter depend only on what they are asked. Then
what becomes of a node depends on the node alone: not on the other nodes of the graph, not on what
was got for them, and not on what failed for them.

* **`Answers.resolve`** — what the answers make of a node, without a run;
* **`Faithful`** — the cache says of each package what the cloner says;
* **`resolveNode_fst`** — with a faithful cache a node becomes what the answers make of it;
* **`resolveGraph_alone`** — in a run a node becomes what it becomes alone.
-/
import RpmProvision.Proofs.Resolution.Outcomes

namespace RpmProvision.Resolution

open Step

variable {τ : Type}

/-- Answers that depend only on what is asked. -/
structure Answers where
  provides : Requirement → Except Error (List String)
  clone : Bool → String → Except Error Bool
  installable : List Path → Except Error (List Path)

/-- The cloner and the arbiter of the context give these answers, whatever happened before. -/
structure Context.Follows (ctx : Context τ) (a : Answers) : Prop where
  whatProvides : ∀ r s, (ctx.cloner.whatProvides r s).1 = a.provides r
  clonePackage : ∀ deps package s, (ctx.cloner.clonePackage deps package s).1 = a.clone deps package
  installable : ∀ candidates s, (ctx.arbiter.installable candidates s).1 = a.installable candidates

/-! ### Without a run -/

namespace Answers

variable (a : Answers)

/-- Get packages one after another, until one cannot be got. -/
def fetch (deps : Bool) : List String → Except Error Unit
  | [] => .ok ()
  | package :: rest =>
    match a.clone deps package with
    | .ok _ => fetch deps rest
    | .error e => .error (fetchError package e)

/-- The candidate among several that the arbiter's answer leads to. -/
def chooseAmong (r : Requirement) (all : List Candidate) : Except Error Candidate :=
  match Selection.verdict r (all.map Candidate.rpm) (a.installable (all.map Candidate.rpm)) with
  | .error e => .error e
  | .ok chosen =>
    match all.find? (·.rpm.sameAs chosen) with
    | some c => .ok c
    | none => .error ⟨.competition, s!"'{chosen.text}' is not a candidate"⟩

/-- The candidate that is taken. -/
def choose (r : Requirement) (all : List Candidate) : Except Error Candidate :=
  match all with
  | [c] => .ok c
  | _ => a.chooseAmong r all

/-- Whether a package was there before the run. -/
def wasThere (deps : Bool) (package : String) : Bool :=
  match a.clone deps package with
  | .ok prebuilt => prebuilt
  | .error _ => false

/-- The node with the RPM that some providers lead to. -/
def resolveFrom (ctx : Context τ) (n : Node) (providers : List String) : Except Error Node := do
  a.fetch ctx.cloneDeps providers
  let c ← a.choose n.requirement (candidates ctx.outDir providers)
  pure (n.resolved c.rpm
    (ctx.manifest.isPrebuiltToolchain c.rpm (a.wasThere ctx.cloneDeps c.package)))

/-- What the answers make of a node. -/
def resolve (ctx : Context τ) (n : Node) : Except Error Node :=
  if n.state = .unresolved then
    found n.requirement (a.provides n.requirement) >>= a.resolveFrom ctx n
  else .error (GraphFault.notUnresolved n).toError

end Answers

/-! ### Faithful caches -/

/-- What a cache says of a package is what the cloner says of it. -/
def Faithful (a : Answers) (deps : Bool) (c : Cache) : Prop :=
  ∀ package, c.isFetched package → a.clone deps package = .ok (c.isPrebuilt package)

theorem faithful_empty (a : Answers) (deps : Bool) : Faithful a deps .empty := by
  intro package h
  rw [Cache.isFetched_empty] at h
  exact absurd h (by decide)

theorem Faithful.record {a : Answers} {deps : Bool} {c : Cache} (hc : Faithful a deps c)
    {package : String} {prebuilt : Bool} (h : a.clone deps package = .ok prebuilt) :
    Faithful a deps (c.record package prebuilt) := by
  intro p hp
  rw [Cache.isPrebuilt_record]
  by_cases heq : p = package
  · rw [if_pos heq, heq, h]
  · rw [if_neg heq]
    rw [Cache.isFetched_record, decide_eq_false heq, Bool.false_or] at hp
    exact hc p hp

theorem Faithful.wasThere {a : Answers} {deps : Bool} {c : Cache} (hc : Faithful a deps c)
    {package : String} (h : c.isFetched package) :
    c.isPrebuilt package = a.wasThere deps package := by
  rw [Answers.wasThere, hc package h]

/-! ### Getting packages -/

variable {ctx : Context τ} {a : Answers}

/-- What getting a package does: it is remembered if the cloner got it. -/
theorem fetch_apply (hctx : ctx.Follows a) (package : String) (p : Progress τ) :
    (∃ prebuilt, a.clone ctx.cloneDeps package = .ok prebuilt
      ∧ (fetch ctx package p).1 = .ok ()
      ∧ (fetch ctx package p).2.cache = p.cache.record package prebuilt)
    ∨ ∃ e, a.clone ctx.cloneDeps package = .error e
      ∧ (fetch ctx package p).1 = .error (fetchError package e)
      ∧ (fetch ctx package p).2.cache = p.cache := by
  have hclone := hctx.clonePackage ctx.cloneDeps package p.session
  unfold fetch
  rw [bind_apply, Progress.onSession, within_apply, mapError_apply, hclone]
  cases a.clone ctx.cloneDeps package with
  | ok prebuilt => exact .inl ⟨prebuilt, rfl, rfl, rfl⟩
  | error e => exact .inr ⟨e, rfl, rfl, rfl⟩

/-- With a faithful cache, getting what is missing ends as getting everything does. The cache stays
faithful, and on success it has all the packages. -/
theorem fetchMissing_apply (hctx : ctx.Follows a) (packages : List String) (p : Progress τ)
    (hp : Faithful a ctx.cloneDeps p.cache) :
    (fetchMissing ctx packages p).1 = a.fetch ctx.cloneDeps packages
      ∧ Faithful a ctx.cloneDeps (fetchMissing ctx packages p).2.cache
      ∧ (∀ q, p.cache.isFetched q → (fetchMissing ctx packages p).2.cache.isFetched q)
      ∧ ((fetchMissing ctx packages p).1 = .ok () →
        ∀ q ∈ packages, (fetchMissing ctx packages p).2.cache.isFetched q) := by
  -- the cache grows from package to package, so the progress is arbitrary
  induction packages generalizing p with
  | nil => exact ⟨rfl, hp, fun _ h => h, fun _ _ h => absurd h List.not_mem_nil⟩
  | cons package rest ih =>
    rw [fetchMissing, bind_apply, asks_apply, andThen_ok, Answers.fetch]
    cases hgot : p.cache.isFetched package with
    | true =>
      -- it is there, so the cloner would get it
      obtain ⟨hfst, hfaith, hmono, hall⟩ := ih p hp
      rw [hp package hgot]
      refine ⟨hfst, hfaith, hmono, fun hok q hq => ?_⟩
      rcases List.mem_cons.mp hq with rfl | hq
      · exact hmono q hgot
      · exact hall hok q hq
    | false =>
      rw [if_neg (by decide), bind_apply]
      rcases fetch_apply hctx package p with ⟨prebuilt, hclone, hfst, hcache⟩ | ⟨e, hclone, hfst, hcache⟩
      · rcases hf : fetch ctx package p with ⟨r, p₁⟩
        rw [hf] at hfst hcache
        change r = .ok () at hfst
        change p₁.cache = _ at hcache
        subst hfst
        have hp₁ : Faithful a ctx.cloneDeps p₁.cache := by
          rw [hcache]
          exact hp.record hclone
        have hrecord (q : String) :
            p₁.cache.isFetched q = (decide (q = package) || p.cache.isFetched q) := by
          rw [hcache, Cache.isFetched_record]
        obtain ⟨hfst, hfaith, hmono, hall⟩ := ih p₁ hp₁
        rw [hclone, andThen_ok]
        refine ⟨hfst, hfaith, fun q hq => hmono q ?_, fun hok q hq => ?_⟩
        · rw [hrecord, hq, Bool.or_true]
        · rcases List.mem_cons.mp hq with rfl | hq
          · refine hmono q ?_
            rw [hrecord, decide_eq_true rfl, Bool.true_or]
          · exact hall hok q hq
      · rcases hf : fetch ctx package p with ⟨r, p₁⟩
        rw [hf] at hfst hcache
        change r = _ at hfst
        change p₁.cache = _ at hcache
        subst hfst
        rw [hclone, andThen_error, hcache]
        exact ⟨rfl, hp, fun _ h => h, fun h => absurd h (by simp)⟩

/-! ### Choosing -/

theorem chooseAmong_fst (hctx : ctx.Follows a) (r : Requirement) (all : List Candidate)
    (s : Session τ) : (chooseAmong ctx r all s).1 = a.chooseAmong r all := by
  have hchoice := Selection.choose_fst ctx.arbiter r (all.map Candidate.rpm) s
  rw [hctx.installable] at hchoice
  rw [chooseAmong, bind_apply, Answers.chooseAmong, ← hchoice]
  rcases Selection.choose ctx.arbiter r (all.map Candidate.rpm) s with ⟨e | chosen, s'⟩
  · rfl
  · rw [andThen_ok]
    show _ = match all.find? (·.rpm.sameAs chosen) with | some c => _ | none => _
    cases all.find? (·.rpm.sameAs chosen) <;> rfl

theorem choose_fst (hctx : ctx.Follows a) (r : Requirement) (all : List Candidate)
    (s : Session τ) : (choose ctx r all s).1 = a.choose r all := by
  match all with
  | [] => exact chooseAmong_fst hctx r [] s
  | [c] => rfl
  | c :: d :: rest => exact chooseAmong_fst hctx r (c :: d :: rest) s

theorem mem_of_chooseAmong {r : Requirement} {all : List Candidate} {c : Candidate}
    (h : a.chooseAmong r all = .ok c) : c ∈ all := by
  rw [Answers.chooseAmong] at h
  rcases hv : Selection.verdict r (all.map Candidate.rpm) (a.installable (all.map Candidate.rpm))
    with e | chosen
  · rw [hv] at h
    cases h
  · rw [hv] at h
    dsimp only at h
    cases hfind : all.find? (·.rpm.sameAs chosen) with
    | none =>
      rw [hfind] at h
      cases h
    | some c' =>
      rw [hfind] at h
      cases h
      exact List.mem_of_find?_eq_some hfind

/-- Only one of the candidates is chosen. -/
theorem mem_of_choose {r : Requirement} {all : List Candidate} {c : Candidate}
    (h : a.choose r all = .ok c) : c ∈ all := by
  match all with
  | [] => exact mem_of_chooseAmong h
  | [d] =>
    cases h
    exact List.mem_singleton_self c
  | d :: e :: rest => exact mem_of_chooseAmong h

/-! ### One node -/

theorem resolveFrom_apply (hctx : ctx.Follows a) (n : Node) (providers : List String)
    (p : Progress τ) (hp : Faithful a ctx.cloneDeps p.cache) :
    (resolveFrom ctx n providers p).1 = a.resolveFrom ctx n providers
      ∧ Faithful a ctx.cloneDeps (resolveFrom ctx n providers p).2.cache := by
  obtain ⟨hfst, hfaith, -, hall⟩ := fetchMissing_apply hctx providers p hp
  unfold resolveFrom Answers.resolveFrom
  rw [bind_apply, ← hfst]
  rcases hm : fetchMissing ctx providers p with ⟨e | _, p₁⟩ <;> rw [hm] at hfaith hall
  · exact ⟨rfl, hfaith⟩
  have hchoice := choose_fst hctx n.requirement (candidates ctx.outDir providers) p₁.session
  rw [andThen_ok, bind_apply, ← hchoice, Progress.onSession, within_apply]
  rcases hc : choose ctx n.requirement (candidates ctx.outDir providers) p₁.session
    with ⟨e | c, s₂⟩
  · exact ⟨rfl, hfaith⟩
  -- the package of the RPM was got, so the cache knows whether it was there
  rw [hc] at hchoice
  obtain ⟨package, hpackage, rfl⟩ := List.mem_map.mp (mem_of_choose hchoice.symm)
  have hprebuilt := hfaith.wasThere (hall rfl package hpackage)
  dsimp only at hprebuilt
  rw [andThen_ok]
  constructor
  · rw [settle_fst]
    dsimp only
    rw [hprebuilt]
    rfl
  · rw [settle_cache]
    exact hfaith

/-- With a faithful cache a node becomes what the answers make of it, and the cache stays
faithful. -/
theorem resolveNode_fst (hctx : ctx.Follows a) (n : Node) (p : Progress τ)
    (hp : Faithful a ctx.cloneDeps p.cache) :
    (resolveNode ctx n p).1 = a.resolve ctx n
      ∧ Faithful a ctx.cloneDeps (resolveNode ctx n p).2.cache := by
  rw [Answers.resolve]
  by_cases hn : n.state = .unresolved
  · rw [resolveNode_of_unresolved ctx hn, findProviders_fst, hctx.whatProvides, if_pos hn]
    cases found n.requirement (a.provides n.requirement) with
    | error e => exact ⟨rfl, hp⟩
    | ok providers => exact resolveFrom_apply hctx n providers _ hp
  · rw [resolveNode_of_resolved ctx hn, if_neg hn]
    exact ⟨rfl, hp⟩

/-- What the answers make of a node of a graph, and the outcome they lead to. -/
def Settled (a : Answers) (ctx : Context τ) (id : NodeId) (before after : Node) (o : Outcome) :
    Prop :=
  match a.resolve ctx before with
  | .ok n => after = n ∧ o = resolvedOutcome id n
  | .error e => e.isFatal = false ∧ after = before ∧ o = failureOutcome id before e

/-- Dealing with a node of a graph ends as the answers say. -/
theorem resolveAt_iff (hctx : ctx.Follows a) {id : NodeId} {before after : Node} {o : Outcome}
    {s : RunState τ} (hs : Faithful a ctx.cloneDeps s.progress.cache)
    (hid : s.graph.node? id = some before) :
    (∃ s', resolveAt ctx id before s = (.ok o, s') ∧ s'.graph.node? id = some after)
      ↔ Settled a ctx id before after o := by
  obtain ⟨hfst, -⟩ := resolveNode_fst hctx before s.progress hs
  rw [Settled, ← hfst]
  rcases hr : resolveNode ctx before s.progress with ⟨e | n, p⟩
  · rw [resolveAt_of_error hr]
    cases he : e.isFatal with
    | true => simp [fail_of_isFatal he, he]
    | false =>
      obtain ⟨w, hw⟩ := fail_of_not_isFatal he id before ⟨s.graph, p⟩
      rw [hw]
      constructor
      · rintro ⟨_, h, hafter⟩
        cases h
        rw [hid] at hafter
        exact ⟨he, (Option.some.inj hafter).symm, rfl⟩
      · rintro ⟨-, rfl, rfl⟩
        exact ⟨_, rfl, hid⟩
  · rw [resolveAt_of_ok hr]
    constructor
    · rintro ⟨_, h, hafter⟩
      cases h
      rw [Graph.node?_setNode_self] at hafter
      exact ⟨(Option.some.inj hafter).symm, rfl⟩
    · rintro ⟨rfl, rfl⟩
      exact ⟨_, rfl, Graph.node?_setNode_self ..⟩

theorem faithful_resolveAt (hctx : ctx.Follows a) {id : NodeId} {n : Node} {o : Outcome}
    {s s' : RunState τ} (hs : Faithful a ctx.cloneDeps s.progress.cache)
    (h : resolveAt ctx id n s = (.ok o, s')) : Faithful a ctx.cloneDeps s'.progress.cache := by
  obtain ⟨-, hfaith⟩ := resolveNode_fst hctx n s.progress hs
  rcases resolveAt_eq_ok h with ⟨_, _, _, rfl⟩ | ⟨_, _, _, _, _, rfl⟩
  · exact hfaith
  · exact hfaith

/-! ### Several nodes -/

/-- In a list of nodes every node ends as the answers say. -/
theorem settled_resolveNodes (hctx : ctx.Follows a) {ids : List NodeId} {s s' : RunState τ}
    {outcomes : List Outcome} (hw : Wanting s.graph ids)
    (hs : Faithful a ctx.cloneDeps s.progress.cache)
    (h : resolveNodes ctx ids s = (.ok outcomes, s')) :
    ∀ o ∈ outcomes, ∃ before after, s.graph.node? o.node = some before
      ∧ s'.graph.node? o.node = some after ∧ Settled a ctx o.node before after o := by
  refine (forall_resolveNodes
    (P := fun t : RunState τ => Faithful a ctx.cloneDeps t.progress.cache)
    (R := fun before after o => Settled a ctx o.node before after o) ?_ hw hs h).2
  intro id _ n o t t' ht hid _ ho
  obtain ⟨after, hafter⟩ : ∃ after, t'.graph.node? id = some after := by
    rcases resolveAt_eq_ok ho with ⟨n', _, _, rfl⟩ | ⟨_, _, _, _, _, rfl⟩
    · exact ⟨n', Graph.node?_setNode_self ..⟩
    · exact ⟨n, hid⟩
  refine ⟨faithful_resolveAt hctx ht ho, after, hafter, ?_⟩
  rw [node_of_resolveAt ho]
  exact (resolveAt_iff hctx ht hid).mp ⟨t', ho, hafter⟩

/-- If answers depend only on what is asked, then in a run that gets through its nodes every node
comes to the outcome and becomes the node that it does alone, with nothing got before, in any graph
that has it and after anything that happened. -/
theorem resolveGraph_alone (hctx : ctx.Follows a) {options : RunOptions} {start final : RunState τ}
    {report : Report} {result : Except Error Report} (hin : options.inputSummary = none)
    (hloop : (resolveUnresolved ctx start).1 = .ok report)
    (hrun : resolveGraph ctx options start = (result, final)) :
    report.outcomes.map Outcome.node = start.graph.unresolvedRunNodes
      ∧ ∀ o ∈ report.outcomes, ∃ n, start.graph.node? o.node = some n
        ∧ ∀ (g : Graph) (session : Session τ), g.node? o.node = some n →
          ∃ alone, resolveNodes ctx [o.node] ⟨g, ⟨session, .empty⟩⟩ = (.ok [o], alone)
            ∧ alone.graph.node? o.node = final.graph.node? o.node := by
  rcases hs : resolveUnresolved ctx start with ⟨answer, s₁⟩
  rw [hs] at hloop
  change answer = .ok report at hloop
  subst hloop
  obtain ⟨s₀, s₂, w', hgraph₀, hcache, -, hnodes, rfl⟩ := resolveUnresolved_eq_ok hs
  rw [resolveGraph_of_resolveUnresolved hin hs] at hrun
  obtain ⟨hgraph, -⟩ := finish_apply ctx options report
    ⟨s₂.graph, ⟨⟨w', s₂.progress.session.agent⟩, s₂.progress.cache⟩⟩
  rw [hrun] at hgraph
  change final.graph = s₂.graph at hgraph
  have hwanting : Wanting s₀.graph start.graph.unresolvedRunNodes := by
    rw [hgraph₀]
    exact wanting_unresolvedRunNodes start.graph
  have hfaith : Faithful a ctx.cloneDeps s₀.progress.cache := by
    rw [hcache]
    exact faithful_empty a ctx.cloneDeps
  refine ⟨(frame_resolveNodes hwanting hnodes).1, fun o ho => ?_⟩
  obtain ⟨n, after, hn, hafter, hsettled⟩ := settled_resolveNodes hctx hwanting hfaith hnodes o ho
  rw [hgraph₀] at hn
  refine ⟨n, hn, fun g session hg => ?_⟩
  obtain ⟨alone, halone, hnode⟩ := (resolveAt_iff hctx
    (s := ⟨g, ⟨session, .empty⟩⟩) (faithful_empty a ctx.cloneDeps) hg).mpr hsettled
  refine ⟨alone, (resolveNodes_cons hg).mpr ⟨o, alone, [], halone, rfl, rfl⟩, ?_⟩
  rw [hnode, hgraph, hafter]

/-- Where everything is provided by zlib, which is a toolchain package that is there. -/
def zlibEverywhere : Context Unit where
  cloner := .ofAnswers (fun _ => .ok ["zlib"]) fun _ _ => .ok true
  arbiter := .ofAnswers .ok
  manifest := .ofList ["zlib.rpm"]
  outDir := ⟨"/out"⟩
  cloneDeps := false

/-- Both nodes have the RPM that was got for the first of them. -/
def sharedReport : Report where
  outcomes := [.resolved 0 ⟨"/out/zlib.rpm"⟩ .upToDate, .resolved 1 ⟨"/out/zlib.rpm"⟩ .upToDate]
  restored := false

theorem sharedReport_alone :
    (resolveUnresolved zlibEverywhere zlibStart).1 = .ok sharedReport
      ∧ ∀ o ∈ sharedReport.outcomes, ∃ n, zlibAndCurl.node? o.node = some n
        ∧ ∀ (g : Graph) (session : Session Unit), g.node? o.node = some n →
          ∃ alone, resolveNodes zlibEverywhere [o.node] ⟨g, ⟨session, .empty⟩⟩ = (.ok [o], alone)
            ∧ alone.graph.node? o.node
              = (resolveGraph zlibEverywhere ⟨none, none, false⟩ zlibStart).2.graph.node? o.node := by
  have hctx : zlibEverywhere.Follows ⟨fun _ => .ok ["zlib"], fun _ _ => .ok true, .ok⟩ :=
    ⟨fun _ _ => rfl, fun _ _ _ => rfl, fun _ _ => rfl⟩
  have hloop : (resolveUnresolved zlibEverywhere zlibStart).1 = .ok sharedReport := rfl
  exact ⟨hloop, (@resolveGraph_alone _ _ _ hctx ⟨none, none, false⟩ _ _ _ _ rfl hloop rfl).2⟩

end RpmProvision.Resolution
