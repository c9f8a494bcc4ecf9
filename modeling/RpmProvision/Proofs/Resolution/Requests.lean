/-
What a run asks for, node by node.

The requests of a run fall into episodes, one for each node that it deals with. An episode starts
with the lookup of the node's requirement; then packages that the answer names are asked for, and
the arbiter may be asked. Over the whole run no package is asked for once it has been got.

* **`Episodes`** — the requests of a run, node by node;
* **`Tallied`** — the cache knows the packages that were got, and none was asked for again;
* **`Sourced`** — where the RPM of a resolved node comes from;
* **`never_cloned_again`** — what the requests of a run look like.
-/
import Mathlib.Data.Finset.Card
import RpmProvision.Proofs.Resolution.Effect
import RpmProvision.Proofs.Resolution.Invariant

namespace RpmProvision

/-- The package that was asked for. -/
def Exchange.requested? : Exchange → Option String
  | .clone _ package _ => some package
  | _ => none

/-- The package that was got. -/
def Exchange.cloned? : Exchange → Option String
  | .clone _ package (.ok _) => some package
  | _ => none

/-- The packages that were got among some exchanges. -/
def cloned (l : List Exchange) : List String := l.filterMap Exchange.cloned?

theorem Exchange.requested?_of_cloned? {e : Exchange} {package : String}
    (h : e.cloned? = some package) : e.requested? = some package := by
  match e with
  | .clone _ _ (.ok _) => exact h
  | .clone _ _ (.error _) => cases h
  | .lookup .. => cases h
  | .convert _ => cases h
  | .contents _ => cases h
  | .restore .. => cases h
  | .judge .. => cases h

theorem cloned_append (l l' : List Exchange) : cloned (l ++ l') = cloned l ++ cloned l' :=
  List.filterMap_append

namespace Resolution

open Step

variable {τ : Type}

/-! ### At most once -/

/-- The cache knows just the packages that were got, and no package was asked for after it had been
got. -/
structure Tallied (l : List Exchange) (c : Cache) : Prop where
  isFetched_iff : ∀ package, c.isFetched package ↔ package ∈ cloned l
  once : l.Pairwise fun e e' => ∀ package, e.cloned? = some package → e'.requested? ≠ some package

namespace Tallied

variable {l : List Exchange} {c : Cache}

theorem empty : Tallied [] .empty where
  isFetched_iff package := by simp [cloned]
  once := .nil

/-- An exchange that is not about getting a package changes nothing. -/
theorem append_other (h : Tallied l c) {e : Exchange} (he : e.requested? = none) :
    Tallied (l ++ [e]) c := by
  have hnone : e.cloned? = none := by
    cases hc : e.cloned? with
    | none => rfl
    | some package =>
      rw [Exchange.requested?_of_cloned? hc] at he
      cases he
  constructor
  · intro package
    rw [h.isFetched_iff, cloned_append]
    simp [cloned, hnone]
  · refine List.pairwise_append.mpr ⟨h.once, List.pairwise_singleton .., ?_⟩
    intro e₁ _ e' he' package _
    rw [List.mem_singleton.mp he', he]
    simp

theorem append_clone_error (h : Tallied l c) {deps : Bool} {package : String} (e : Error)
    (hmissing : c.isFetched package = false) : Tallied (l ++ [.clone deps package (.error e)]) c := by
  constructor
  · intro q
    rw [h.isFetched_iff, cloned_append]
    simp [cloned, Exchange.cloned?]
  · refine List.pairwise_append.mpr ⟨h.once, List.pairwise_singleton .., ?_⟩
    intro e₁ he₁ e' he' q hq heq
    rw [List.mem_singleton.mp he'] at heq
    cases heq
    have hmem : package ∈ cloned l := List.mem_filterMap.mpr ⟨e₁, he₁, hq⟩
    rw [← h.isFetched_iff, hmissing] at hmem
    cases hmem

theorem append_clone_ok (h : Tallied l c) {deps : Bool} {package : String} (prebuilt : Bool)
    (hmissing : c.isFetched package = false) :
    Tallied (l ++ [.clone deps package (.ok prebuilt)]) (c.record package prebuilt) := by
  constructor
  · intro q
    rw [Cache.isFetched_record, Bool.or_eq_true, decide_eq_true_iff, h.isFetched_iff, cloned_append]
    simp [cloned, Exchange.cloned?, or_comm]
  · refine List.pairwise_append.mpr ⟨h.once, List.pairwise_singleton .., ?_⟩
    intro e₁ he₁ e' he' q hq heq
    rw [List.mem_singleton.mp he'] at heq
    cases heq
    have hmem : package ∈ cloned l := List.mem_filterMap.mpr ⟨e₁, he₁, hq⟩
    rw [← h.isFetched_iff, hmissing] at hmem
    cases hmem

/-- The cache has as many packages as were got. -/
theorem size_eq (h : Tallied l c) : c.size = (cloned l).toFinset.card := by
  have hkeys : c.flags.keys.toFinset = (cloned l).toFinset := by
    ext package
    rw [List.mem_toFinset, List.mem_toFinset, ← h.isFetched_iff, Cache.isFetched,
      SortedMap.contains_iff_mem_keys]
  have hlength : c.flags.keys.length = c.size := by
    simp [SortedMap.keys, Cache.size, SortedMap.size]
  rw [← hkeys, List.toFinset_card_of_nodup c.flags.nodup_keys, hlength]

end Tallied

theorem kept_tallied (ctx : Context τ) :
    Kept ctx.recorded fun p => Tallied p.record p.cache where
  record _ _ _ h := h
  lookup _ _ := ⟨fun _ h => h.append_other rfl⟩
  judge _ _ := ⟨fun _ h => h.append_other rfl⟩
  fetch package p hmissing h := by
    rcases hclone : ctx.recorded.cloner.clonePackage ctx.cloneDeps package p.session
      with ⟨result, s⟩
    have hrecord : s.record = p.record ++ [.clone ctx.cloneDeps package result] :=
      Cloner.record_clonePackage hclone
    cases result with
    | error e =>
      rw [fetch_of_error hclone]
      show Tallied s.record p.cache
      rw [hrecord]
      exact h.append_clone_error e hmissing
    | ok prebuilt =>
      obtain ⟨e, hfetch⟩ := fetch_of_ok hclone
      rw [hfetch]
      show Tallied s.record (p.cache.record package prebuilt)
      rw [hrecord]
      exact h.append_clone_ok prebuilt hmissing

/-! ### One node -/

/-- A request that may follow a lookup with the answer, before the next lookup: for a package that
the answer names, or for a judgement. -/
inductive Serves (deps : Bool) (answer : Except Error (List String)) : Exchange → Prop where
  | clone {packages : List String} {package : String} {result : Except Error Bool}
      (hanswer : answer = .ok packages) (hmem : package ∈ packages) :
      Serves deps answer (.clone deps package result)
  | judge {rpms : List Path} {result : Except Error (List Path)} :
      Serves deps answer (.judge rpms result)

theorem Serves.lookup?_eq_none {deps : Bool} {answer : Except Error (List String)} {e : Exchange}
    (h : Serves deps answer e) : e.lookup? = none := by
  cases h <;> rfl

theorem found_eq_ok {r : Requirement} {answer : Except Error (List String)} {providers : List String}
    (h : found r answer = .ok providers) :
    ∃ packages, answer = .ok packages ∧ providers = packages.eraseDups := by
  match answer with
  | .error e => cases h
  | .ok [] => cases h
  | .ok (p :: ps) =>
    cases h
    exact ⟨p :: ps, rfl, rfl⟩

theorem extends_resolveFrom_serves (ctx : Context τ) (n : Node) (packages : List String) :
    Extends Progress.record (Serves ctx.cloneDeps (.ok packages))
      (resolveFrom ctx.recorded n packages.eraseDups) := by
  refine .bind ((extends_fetchMissing ctx _).mono fun e he => ?_) fun _ =>
    .bind (((extends_choose ctx _ _).mono fun e he => ?_).within (fun _ => rfl) fun _ _ => rfl)
      fun c => .of_eq fun p => ?_
  · obtain ⟨package, hmem, answer, rfl⟩ := he
    exact .clone rfl (List.mem_eraseDups.mp hmem)
  · obtain ⟨answer, rfl⟩ := he
    exact .judge
  · unfold settle
    rw [bind_apply, asks_apply, andThen_ok]
    cases ctx.recorded.manifest.isPrebuiltToolchain c.rpm (p.cache.isPrebuilt c.package) <;> rfl

/-- Only one of the candidates is chosen. -/
theorem choose_eq_ok {ctx : Context τ} {r : Requirement} {all : List Candidate} {c : Candidate}
    {s s' : Session τ} (h : choose ctx r all s = (.ok c, s')) : c ∈ all := by
  have hamong {l : List Candidate} (h : chooseAmong ctx r l s = (.ok c, s')) : c ∈ l := by
    obtain ⟨chosen, s₁, -, h⟩ := bind_eq_ok.mp h
    cases hfind : l.find? (·.rpm.sameAs chosen) with
    | none =>
      rw [hfind] at h
      cases h
    | some d =>
      rw [hfind] at h
      cases h
      exact List.mem_of_find?_eq_some hfind
  match all with
  | [] => exact hamong h
  | [d] =>
    cases h
    exact List.mem_singleton_self c
  | d :: e :: rest => exact hamong h

/-- The node gets the RPM of one of the providers, which has been got. -/
theorem resolveFrom_eq_ok {ctx : Context τ} {n n' : Node} {providers : List String}
    {p p' : Progress τ} (h : resolveFrom ctx n providers p = (.ok n', p')) :
    ∃ package ∈ providers, p'.cache.isFetched package
      ∧ n' = n.resolved (rpmPath package ctx.outDir)
        (ctx.manifest.isPrebuiltToolchain (rpmPath package ctx.outDir)
          (p'.cache.isPrebuilt package)) := by
  obtain ⟨_, p₁, hfetch, h⟩ := bind_eq_ok.mp h
  obtain ⟨c, p₂, hchoose, hsettle⟩ := bind_eq_ok.mp h
  have hall := isFetched_of_fetchMissing hfetch
  rw [Progress.onSession, within_apply] at hchoose
  obtain ⟨hfst, rfl⟩ := Prod.mk.inj hchoose
  obtain ⟨package, hmem, rfl⟩ := List.mem_map.mp (choose_eq_ok (Prod.ext hfst rfl))
  -- settling on the candidate leaves the cache alone
  have hcache := settle_cache ctx n ⟨package, rpmPath package ctx.outDir⟩
    ⟨(choose ctx n.requirement (candidates ctx.outDir providers) p₁.session).2, p₁.cache⟩
  have hnode := settle_fst ctx n ⟨package, rpmPath package ctx.outDir⟩
    ⟨(choose ctx n.requirement (candidates ctx.outDir providers) p₁.session).2, p₁.cache⟩
  rw [hsettle] at hcache hnode
  change p'.cache = p₁.cache at hcache
  refine ⟨package, hmem, ?_, ?_⟩
  · rw [hcache]
    exact hall package hmem
  · rw [hcache]
    exact Except.ok.inj hnode

/-- For a node its requirement is looked up, and then only packages are asked for that the answer
names. If the node is resolved, its RPM is that of one of them. -/
theorem resolveNode_episode (ctx : Context τ) {n : Node} (hn : n.state = .unresolved)
    (p : Progress (Recorded τ)) :
    ∃ answer more,
      (resolveNode ctx.recorded n p).2.record = p.record ++ .lookup n.requirement answer :: more
        ∧ (∀ e ∈ more, Serves ctx.cloneDeps answer e)
        ∧ ∀ n', (resolveNode ctx.recorded n p).1 = .ok n' → ∃ packages, answer = .ok packages
          ∧ ∃ package ∈ packages, (resolveNode ctx.recorded n p).2.cache.isFetched package
            ∧ n' = n.resolved (rpmPath package ctx.outDir)
              (ctx.manifest.isPrebuiltToolchain (rpmPath package ctx.outDir)
                ((resolveNode ctx.recorded n p).2.cache.isPrebuilt package)) := by
  obtain ⟨answer, ha⟩ : ∃ answer, answer = (ctx.recorded.cloner.whatProvides n.requirement
    (announced n (begun n p.session))).1 := ⟨_, rfl⟩
  have hfst := findProviders_fst ctx.recorded n (begun n p.session)
  have hrec := findProviders_record ctx n (begun n p.session)
  rw [← ha] at hfst hrec
  rw [resolveNode_of_unresolved _ hn, hfst]
  refine ⟨answer, ?_⟩
  cases hq : found n.requirement answer with
  | error e =>
    rw [andThen_error]
    exact ⟨[], hrec, by simp, fun n' h => by cases h⟩
  | ok providers =>
    obtain ⟨packages, rfl, rfl⟩ := found_eq_ok hq
    rw [andThen_ok]
    obtain ⟨more, hmore, hserves⟩ := (extends_resolveFrom_serves ctx n packages).exists_more
      ⟨(findProviders ctx.recorded n (begun n p.session)).2, p.cache⟩
    refine ⟨more, ?_, hserves, ?_⟩
    · rw [hmore]
      show (findProviders ctx.recorded n (begun n p.session)).2.record ++ more = _
      rw [hrec, List.append_assoc]
      rfl
    · intro n' hn'
      obtain ⟨package, hmem, hgot, heq⟩ := resolveFrom_eq_ok (Prod.ext hn' rfl)
      exact ⟨packages, rfl, package, List.mem_eraseDups.mp hmem, hgot, heq⟩

/-! ### A list of nodes -/

/-- Requests that deal with nodes of a graph one after another: for each node the lookup of its
requirement, and then requests that serve the answer. -/
inductive Episodes (g : Graph) (deps : Bool) : List NodeId → List Exchange → Prop where
  | nil : Episodes g deps [] []
  | cons {id : NodeId} {ids : List NodeId} {n : Node} {answer : Except Error (List String)}
      {more rest : List Exchange} (hnode : g.node? id = some n)
      (hmore : ∀ e ∈ more, Serves deps answer e) (hrest : Episodes g deps ids rest) :
      Episodes g deps (id :: ids) (.lookup n.requirement answer :: more ++ rest)

/-- Only the nodes that are dealt with matter. -/
theorem Episodes.congr {g g' : Graph} {deps : Bool} {ids : List NodeId} {l : List Exchange}
    (h : Episodes g deps ids l) (hg : ∀ id ∈ ids, g'.node? id = g.node? id) :
    Episodes g' deps ids l := by
  induction h with
  | nil => exact .nil
  | cons hnode hmore _ ih =>
    refine .cons ?_ hmore (ih fun id hid => hg id (List.mem_cons_of_mem _ hid))
    rw [hg _ List.mem_cons_self, hnode]

theorem lookups_episode {deps : Bool} {r : Requirement} {answer : Except Error (List String)}
    {more : List Exchange} (hmore : ∀ e ∈ more, Serves deps answer e) (rest : List Exchange) :
    lookups (.lookup r answer :: more ++ rest) = (r, answer) :: lookups rest := by
  rw [lookups_append]
  show (r, answer) :: lookups more ++ lookups rest = _
  rw [lookups_eq_nil fun e he => (hmore e he).lookup?_eq_none]
  rfl

/-- Where a resolved node has its RPM from: from a package that was got and that the answer to the
lookup of its requirement names. The node is up to date only if the package was there before. -/
def Sourced (ctx : Context τ) (g : Graph) (cache : Cache) (o : Outcome)
    (q : Requirement × Except Error (List String)) : Prop :=
  (∃ n, g.node? o.node = some n ∧ q.1 = n.requirement)
    ∧ ∀ id rpm state, o = .resolved id rpm state → ∃ packages, q.2 = .ok packages
      ∧ ∃ package ∈ packages, cache.isFetched package ∧ rpm = rpmPath package ctx.outDir
        ∧ (state = .upToDate → cache.isPrebuilt package)

theorem Sourced.grows {ctx : Context τ} {g : Graph} {c c' : Cache} {o : Outcome}
    {q : Requirement × Except Error (List String)} (h : Sourced ctx g c o q) (hc : c.Grows c') :
    Sourced ctx g c' o q := by
  refine ⟨h.1, fun id rpm state ho => ?_⟩
  obtain ⟨packages, hq, package, hmem, hgot, hrpm, hstate⟩ := h.2 id rpm state ho
  obtain ⟨hgot', heq⟩ := hc package hgot
  refine ⟨packages, hq, package, hmem, hgot', hrpm, fun hs => ?_⟩
  rw [heq]
  exact hstate hs

/-- What dealing with a node makes of the progress is what resolving the node makes of it, but for
the log. -/
theorem progress_resolveAt (ctx : Context τ) (id : NodeId) (n : Node) (s : RunState τ) :
    ∃ w, (resolveAt ctx id n s).2.progress
      = ⟨⟨w, (resolveNode ctx n s.progress).2.session.agent⟩,
        (resolveNode ctx n s.progress).2.cache⟩ := by
  rcases hr : resolveNode ctx n s.progress with ⟨e | n', p⟩
  · rw [resolveAt_of_error hr]
    cases he : e.isFatal with
    | true =>
      rw [fail_of_isFatal he]
      exact ⟨p.session.world, rfl⟩
    | false =>
      obtain ⟨w, hw⟩ := fail_of_not_isFatal he id n ⟨s.graph, p⟩
      rw [hw]
      exact ⟨w, rfl⟩
  · rw [resolveAt_of_ok hr]
    exact ⟨p.session.world, rfl⟩

/-- The requests for one node, and where its RPM comes from. -/
theorem resolveAt_episode (ctx : Context τ) {id : NodeId} {n : Node} {s : RunState (Recorded τ)}
    (hid : s.graph.node? id = some n) (hn : n.state = .unresolved) :
    ∃ answer more, (resolveAt ctx.recorded id n s).2.record
        = s.record ++ .lookup n.requirement answer :: more
      ∧ (∀ e ∈ more, Serves ctx.cloneDeps answer e)
      ∧ ∀ o, (resolveAt ctx.recorded id n s).1 = .ok o →
        Sourced ctx s.graph (resolveAt ctx.recorded id n s).2.progress.cache o
          (n.requirement, answer) := by
  obtain ⟨answer, more, hrec, hserves, hok⟩ := resolveNode_episode ctx hn s.progress
  obtain ⟨w, hprogress⟩ := progress_resolveAt ctx.recorded id n s
  have hrecord : (resolveAt ctx.recorded id n s).2.record
      = (resolveNode ctx.recorded n s.progress).2.record := by
    show (resolveAt ctx.recorded id n s).2.progress.record = _
    rw [hprogress]
    rfl
  refine ⟨answer, more, hrecord.trans hrec, hserves, fun o ho => ⟨⟨n, ?_, rfl⟩, ?_⟩⟩
  · rw [node_of_resolveAt (Prod.ext ho rfl), hid]
  · rintro id' rpm state rfl
    rcases resolveAt_eq_ok (Prod.ext ho rfl) with ⟨n', hn', heq, -⟩ | ⟨e, w', he, -, heq, -⟩
    · obtain ⟨packages, rfl, package, hmem, hgot, rfl⟩ := hok n' hn'
      rw [resolvedOutcome, resolved_rpmPath, resolved_state] at heq
      cases heq
      rw [hprogress]
      refine ⟨packages, rfl, package, hmem, hgot, rfl, fun hstate => ?_⟩
      -- only a package that was there before makes a node up to date
      cases hb : (resolveNode ctx.recorded n s.progress).2.cache.isPrebuilt package with
      | true => rfl
      | false => simp [hb, Manifest.isPrebuiltToolchain] at hstate
    · have hfailed := isResolved_failureOutcome id n e
      rw [← heq] at hfailed
      cases hfailed

theorem resolveNodes_cons_apply {ctx : Context τ} {id : NodeId} {rest : List NodeId} {n : Node}
    {s : RunState τ} (hid : s.graph.node? id = some n) :
    resolveNodes ctx (id :: rest) s = andThen (fun o => resolveNodes ctx rest >>= fun more =>
      pure (o :: more)) (resolveAt ctx id n s) := by
  rw [resolveNodes, bind_apply, asks_apply, andThen_ok, hid]
  rfl

/-- A run over nodes deals with them in order, up to the one whose failure ends the run. -/
theorem resolveNodes_episodes (ctx : Context τ) {ids : List NodeId} {s : RunState (Recorded τ)}
    (hw : Wanting s.graph ids) :
    ∃ dealt l, dealt <+: ids ∧ Episodes s.graph ctx.cloneDeps dealt l
      ∧ (resolveNodes ctx.recorded ids s).2.record = s.record ++ l
      ∧ ∀ outcomes, (resolveNodes ctx.recorded ids s).1 = .ok outcomes → dealt = ids
        ∧ List.Forall₂ (Sourced ctx s.graph (resolveNodes ctx.recorded ids s).2.progress.cache)
          outcomes (lookups l) := by
  induction ids generalizing s with
  | nil =>
    refine ⟨[], [], List.prefix_rfl, .nil, (List.append_nil _).symm, fun outcomes h => ?_⟩
    cases h
    exact ⟨rfl, .nil⟩
  | cons id rest ih =>
    obtain ⟨n, hid, hn⟩ := hw.2 id List.mem_cons_self
    obtain ⟨answer, more, hrec, hserves, hsourced⟩ := resolveAt_episode ctx hid hn
    rw [resolveNodes_cons_apply hid]
    rcases ho : resolveAt ctx.recorded id n s with ⟨e | o, s₁⟩ <;> rw [ho] at hrec hsourced
    · -- the run ends in the episode of this node
      refine ⟨[id], .lookup n.requirement answer :: more ++ [], ?_, .cons hid hserves .nil, ?_, ?_⟩
      · exact List.prefix_append [id] rest
      · rw [List.append_nil]
        exact hrec
      · intro outcomes h
        cases h
    · obtain ⟨dealt, l, hfront, hepisodes, hrest, hok⟩ := ih (hw.rest ho)
      have hfresh : id ∉ rest := (List.nodup_cons.mp hw.1).1
      -- the other nodes are what they were
      have hothers : ∀ id' ∈ rest, s.graph.node? id' = s₁.graph.node? id' := by
        intro id' hid'
        rw [node?_resolveAt_of_ne ho fun heq => hfresh (heq ▸ hid')]
      have hstate : (andThen (fun o => resolveNodes ctx.recorded rest >>= fun more =>
          pure (o :: more)) (.ok o, s₁)).2 = (resolveNodes ctx.recorded rest s₁).2 :=
        snd_bind_pure ..
      refine ⟨id :: dealt, .lookup n.requirement answer :: more ++ l, ?_, ?_, ?_, ?_⟩
      · exact (List.prefix_cons_inj id).mpr hfront
      · exact .cons hid hserves (hepisodes.congr fun id' h => hothers id' (hfront.subset h))
      · rw [hstate, hrest, hrec, List.append_assoc]
      · intro outcomes h
        have hbind : (resolveNodes ctx.recorded rest >>= fun more => pure (o :: more)) s₁
            = (.ok outcomes, (resolveNodes ctx.recorded rest s₁).2) := Prod.ext h hstate
        obtain ⟨os, s', hos, heq⟩ := bind_eq_ok.mp hbind
        cases heq
        have hgrows : Cache.Grows s₁.progress.cache
            (resolveNodes ctx.recorded rest s₁).2.progress.cache :=
          ((kept_grows ctx.recorded s₁.progress.cache).resolveNodes rest).of_run s₁ (.refl _)
        obtain ⟨rfl, hall⟩ := hok os (congrArg Prod.fst hos)
        have hnodes := (frame_resolveNodes (hw.rest ho) hos).1
        refine ⟨rfl, ?_⟩
        rw [hstate, lookups_episode hserves]
        refine .cons ((hsourced o rfl).grows hgrows) ?_
        have hmem : ∀ o ∈ os, o.node ∈ dealt := by
          intro o ho
          rw [← hnodes]
          exact List.mem_map_of_mem ho
        refine ((List.forall₂_and_left os (lookups l)).mpr ⟨hmem, hall⟩).imp fun o q hoq => ?_
        obtain ⟨hdealt, ⟨n', hn', hr⟩, hrpm⟩ := hoq
        exact ⟨⟨n', (hothers _ hdealt).trans hn', hr⟩, hrpm⟩

theorem exists_of_forall₂ {α β : Type} {R : α → β → Prop} {as : List α} {bs : List β}
    (h : List.Forall₂ R as bs) {a : α} (ha : a ∈ as) : ∃ b ∈ bs, R a b := by
  induction h with
  | nil => cases ha
  | cons hab _ ih =>
    rcases List.mem_cons.mp ha with rfl | ha
    · exact ⟨_, List.mem_cons_self, hab⟩
    · obtain ⟨b, hb, hR⟩ := ih ha
      exact ⟨b, List.mem_cons_of_mem _ hb, hR⟩

/-! ### A whole run -/

theorem resolveUnresolved_episodes (ctx : Context τ) (s : RunState (Recorded τ)) :
    ∃ dealt l, dealt <+: s.graph.unresolvedRunNodes ∧ Episodes s.graph ctx.cloneDeps dealt l
      ∧ (resolveUnresolved ctx.recorded s).2.record = s.record ++ l
      ∧ ∀ report, (resolveUnresolved ctx.recorded s).1 = .ok report →
        dealt = s.graph.unresolvedRunNodes
        ∧ List.Forall₂ (Sourced ctx s.graph (resolveUnresolved ctx.recorded s).2.progress.cache)
          report.outcomes (lookups l) := by
  obtain ⟨s₀, w, hgraph, -, hagent, hfst, hsnd⟩ := resolveUnresolved_apply ctx.recorded s
  have hwanting : Wanting s₀.graph s.graph.unresolvedRunNodes := by
    rw [hgraph]
    exact wanting_unresolvedRunNodes s.graph
  obtain ⟨dealt, l, hfront, hepisodes, hrecord, hok⟩ := resolveNodes_episodes ctx hwanting
  rw [hgraph] at hepisodes hok
  refine ⟨dealt, l, hfront, hepisodes, ?_, ?_⟩
  · rw [hsnd]
    show (resolveNodes ctx.recorded _ s₀).2.record = _
    rw [hrecord]
    show s₀.progress.session.agent.record ++ l = _
    rw [hagent]
    rfl
  · intro report hreport
    rw [hfst] at hreport
    rw [hsnd]
    cases hloop : (resolveNodes ctx.recorded s.graph.unresolvedRunNodes s₀).1 with
    | error e =>
      rw [hloop] at hreport
      cases hreport
    | ok outcomes =>
      rw [hloop] at hreport
      cases hreport
      exact hok outcomes hloop

/-- The requests of a whole run: those for the nodes, one after another, and after them only what
has been got so far is asked for. -/
theorem resolveGraph_episodes (ctx : Context τ) {options : RunOptions}
    (hin : options.inputSummary = none) (s : RunState τ) :
    ∃ dealt l more, resolveGraph ctx.recorded options (s.withRecord [])
        = ((resolveGraph ctx options s).1, (resolveGraph ctx options s).2.withRecord (l ++ more))
      ∧ (∀ e ∈ more, ∃ summary, e = .contents summary)
      ∧ dealt <+: s.graph.unresolvedRunNodes ∧ Episodes s.graph ctx.cloneDeps dealt l
      ∧ ∀ report, (resolveUnresolved ctx s).1 = .ok report → dealt = s.graph.unresolvedRunNodes
        ∧ List.Forall₂ (Sourced ctx s.graph (resolveGraph ctx options s).2.progress.cache)
          report.outcomes (lookups (l ++ more)) := by
  have hmirror := (mirrors_resolveGraph ctx options).run_forget (s.withRecord [])
  have hmirrorLoop := (mirrors_resolveUnresolved ctx).run_forget (s.withRecord [])
  rw [RunState.forget_withRecord] at hmirror hmirrorLoop
  obtain ⟨dealt, l, hfront, hepisodes, hrecord, hok⟩ :=
    resolveUnresolved_episodes ctx (s.withRecord [])
  change (resolveUnresolved ctx.recorded (s.withRecord [])).2.record = l at hrecord
  rw [hmirrorLoop]
  rcases hloop : resolveUnresolved ctx.recorded (s.withRecord []) with ⟨e | report, s₁⟩ <;>
    rw [hloop] at hrecord hok
  · have hrun : resolveGraph ctx.recorded options (s.withRecord []) = (.error e, s₁) :=
      resolveGraph_of_resolveUnresolved_error hin hloop
    rw [hrun] at hmirror ⊢
    rw [hmirror]
    refine ⟨dealt, l, [], ?_, fun _ he => absurd he List.not_mem_nil, hfront, hepisodes, ?_⟩
    · rw [List.append_nil, ← hrecord]
      rfl
    · intro report h
      cases h
  · have hrun : resolveGraph ctx.recorded options (s.withRecord [])
        = finish ctx.recorded options report s₁ := resolveGraph_of_resolveUnresolved hin hloop
    obtain ⟨more, hmore, hcontents⟩ :=
      (extends_finish_contents ctx options report).exists_more s₁
    have hcache := finish_cache ctx.recorded options report s₁
    rw [hrun] at hmirror ⊢
    rw [hmirror]
    refine ⟨dealt, l, more, ?_, hcontents, hfront, hepisodes, ?_⟩
    · rw [← hrecord, ← hmore]
      rfl
    · intro report' h
      cases h
      obtain ⟨hdealt, hall⟩ := hok report rfl
      have hlookups : lookups (l ++ more) = lookups l := by
        rw [lookups_append, lookups_eq_nil (l := more), List.append_nil]
        intro e he
        obtain ⟨summary, rfl⟩ := hcontents e he
        rfl
      refine ⟨hdealt, ?_⟩
      rw [hlookups]
      show List.Forall₂ (Sourced ctx s.graph
        (finish ctx.recorded options report s₁).2.progress.cache) _ _
      rw [hcache]
      exact hall

/-- What became of a node, and where its RPM comes from. -/
def Supplied (ctx : Context τ) (start final : RunState τ) (o : Outcome)
    (q : Requirement × Except Error (List String)) : Prop :=
  ∃ before after, start.graph.node? o.node = some before ∧ final.graph.node? o.node = some after
    ∧ q.1 = before.requirement ∧ ∀ id rpm state, o = .resolved id rpm state →
      after.rpmPath = some rpm ∧ ∃ packages, q.2 = .ok packages ∧ ∃ package ∈ packages,
        final.progress.cache.isFetched package ∧ rpm = rpmPath package ctx.outDir
          ∧ (state = .upToDate → final.progress.cache.isPrebuilt package)

/-- The outcome of a node tells the RPM that the node has in the end, and that is the RPM of a
package that was got and that the answer to the lookup of its requirement names. -/
theorem resolveGraph_supplied {ctx : Context τ} {options : RunOptions} {s : RunState τ}
    {report : Report} (hin : options.inputSummary = none)
    (hloop : (resolveUnresolved ctx s).1 = .ok report) :
    ∃ asked, resolveGraph ctx.recorded options (s.withRecord [])
        = ((resolveGraph ctx options s).1, (resolveGraph ctx options s).2.withRecord asked)
      ∧ List.Forall₂ (Supplied ctx s (resolveGraph ctx options s).2) report.outcomes
        (lookups asked) := by
  obtain ⟨dealt, l, more, hrun, -, -, -, hsourced⟩ := resolveGraph_episodes ctx hin s
  obtain ⟨-, hall⟩ := hsourced report hloop
  refine ⟨l ++ more, hrun, ?_⟩
  -- what the run over the nodes made of a node stays
  obtain ⟨s₁, hs₁⟩ : ∃ s₁, resolveUnresolved ctx s = (.ok report, s₁) := ⟨_, Prod.ext hloop rfl⟩
  have hgraph : (resolveGraph ctx options s).2.graph = s₁.graph := by
    rw [resolveGraph_of_resolveUnresolved hin hs₁]
    exact (finish_apply ctx options report s₁).1
  obtain ⟨-, -, hprovided⟩ := advances_resolveUnresolved hs₁
  refine ((List.forall₂_and_left report.outcomes _).mpr ⟨hprovided, hall⟩).imp fun o q hoq => ?_
  obtain ⟨⟨before, after, hbefore, hafter, hprov⟩, ⟨n, hn, hreq⟩, hfrom⟩ := hoq
  cases hbefore.symm.trans hn
  refine ⟨before, after, hbefore, by rw [hgraph, hafter], hreq, ?_⟩
  rintro id rpm state rfl
  obtain ⟨rpm', b, rfl, heq⟩ := hprov rfl
  have hrpm : rpm = rpm' := by
    injection heq
  rw [hrpm]
  exact ⟨resolved_rpmPath .., hrpm ▸ hfrom id rpm state rfl⟩

/-- A run that keeps a record tallies the packages that were got. -/
theorem tallied_resolveGraph (ctx : Context τ) {options : RunOptions}
    (hin : options.inputSummary = none) (s : RunState τ) :
    Tallied (resolveGraph ctx.recorded options (s.withRecord [])).2.record
      (resolveGraph ctx.recorded options (s.withRecord [])).2.progress.cache := by
  have hsave (c : Cache) (path : Path) :
      Maintains (fun s : Session (Recorded τ) => Tallied s.record c)
        (ctx.recorded.cloner.saveContents path) := by
    refine .bind ⟨fun s hs => ?_⟩ fun _ => .bind ⟨fun _ hs => hs⟩ fun _ => ⟨fun _ hs => hs⟩
    exact hs.append_other rfl
  exact (kept_tallied ctx).resolveGraph (fun c path _ => hsave c path) hin .empty

/-- Whatever the cloner and the arbiter answer, and however the run ends: for each node that it deals
with, the requirement is looked up, and then packages that the answer names are asked for, with what
they depend on if the run wants that, until the next lookup. No package is asked for once it has been
got, and in the end the cache has as many packages as were got. -/
theorem never_cloned_again (ctx : Context τ) (outputSummary : Option Path) (stopOnFailure : Bool)
    (start : RunState τ) :
    ∃ dealt asked more,
      resolveGraph ctx.recorded ⟨none, outputSummary, stopOnFailure⟩ (start.withRecord [])
        = ((resolveGraph ctx ⟨none, outputSummary, stopOnFailure⟩ start).1,
          (resolveGraph ctx ⟨none, outputSummary, stopOnFailure⟩ start).2.withRecord
            (asked ++ more))
      ∧ dealt <+: start.graph.unresolvedRunNodes
      ∧ Episodes start.graph ctx.cloneDeps dealt asked
      ∧ (∀ e ∈ more, ∃ summary, e = .contents summary)
      ∧ (asked ++ more).Pairwise
        (fun e e' => ∀ package, e.cloned? = some package → e'.requested? ≠ some package)
      ∧ (resolveGraph ctx ⟨none, outputSummary, stopOnFailure⟩ start).2.progress.cache.size
        = (cloned (asked ++ more)).toFinset.card := by
  have hin : (⟨none, outputSummary, stopOnFailure⟩ : RunOptions).inputSummary = none := rfl
  obtain ⟨dealt, asked, more, hrun, hmore, hfront, hepisodes, -⟩ := resolveGraph_episodes ctx hin start
  have htally := tallied_resolveGraph ctx hin start
  rw [hrun] at htally
  exact ⟨dealt, asked, more, hrun, hfront, hepisodes, hmore, htally.once, htally.size_eq⟩

end Resolution

end RpmProvision
