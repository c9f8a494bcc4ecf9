/-
Which failures end a run over nodes.

What a cloner and an arbiter answer may be an error of any kind. Only one of them ends a run: that the
directory for the packages cannot be used, as the answer to a request for a package. Every other one
ends the dealing with one node, and becomes the outcome of that node.

* **`failure?`** — the error that an answer leads to;
* **`Dealing`** — what was asked for a node, and what came of it;
* **`Concluded`** — how a run over nodes ends, by what came of each;
* **`ends_only_if_unusable`** — the failures of a whole run.
-/
import RpmProvision.Proofs.Blame
import RpmProvision.Proofs.Resolution.Errors
import RpmProvision.Proofs.Resolution.Requests

namespace RpmProvision

open Step

variable {τ : Type}

namespace Selection

/-- To choose, the arbiter is asked once. -/
theorem choose_record (a : Arbiter τ) (r : Requirement) (candidates : List Path)
    (s : Session (Recorded τ)) :
    (choose a.recorded r candidates s).2.record = s.record ++
      [.judge candidates (a.recorded.installable candidates (announced r candidates s)).1] := by
  have hask : (ask a.recorded r candidates (announced r candidates s)).2.record = s.record ++
      [.judge candidates (a.recorded.installable candidates (announced r candidates s)).1] := by
    rw [ask, mapError_apply]
    rw [view_onError Session.record fun _ _ => rfl]
    exact record_noting ..
  rw [choose_eq]
  show (andThen _ (ask a.recorded r candidates (announced r candidates s))).2.record = _
  rcases hs : ask a.recorded r candidates (announced r candidates s) with ⟨e | installable, s'⟩ <;>
    rw [hs] at hask
  · exact hask
  · -- what is logged about the answer asks for nothing
    rw [← hask]
    rcases installable with _ | ⟨first, _ | ⟨second, rest⟩⟩
    · rfl
    · rfl
    · rfl

/-- What is chosen is one of the candidates. -/
theorem choose_mem {a : Arbiter τ} {r : Requirement} {candidates : List Path} {chosen : Path}
    {s s' : Session τ} (h : choose a r candidates s = (.ok chosen, s')) : chosen ∈ candidates := by
  have hfst := choose_fst a r candidates s
  rw [h] at hfst
  match hanswer : (a.installable candidates (announced r candidates s)).1, hfst with
  | .error e, hfst => cases hfst
  | .ok [], hfst => cases hfst
  | .ok (first :: more), hfst =>
    change .ok chosen = pick r candidates (first :: more) at hfst
    rw [pick] at hfst
    cases hc : candidateNamed? candidates first with
    | none =>
      rw [hc] at hfst
      cases hfst
    | some c =>
      rw [hc] at hfst
      cases hfst
      exact List.mem_of_find?_eq_some hc

end Selection

namespace Resolution

/-! ### What an answer leads to -/

/-- The error that the answer to a request leads to, for a node with the requirement: there is one if
the answer is an error, names no package, or lets nothing be chosen. -/
def failure? (r : Requirement) : Exchange → Option Error
  | .lookup _ (.error e) => some (e.asKind .providerLookup)
  | .lookup _ (.ok []) => some (noProvider r)
  | .clone _ package (.error e) => some (fetchError package e)
  | .judge _ (.error e) => some ⟨.competition, s!"'{r.toText}': {e.message}"⟩
  | .judge candidates (.ok installable) => errorOf (Selection.pick r candidates installable)
  | _ => none

theorem failure?_lookup (r : Requirement) (answer : Except Error (List String)) :
    failure? r (.lookup r answer) = errorOf (found r answer) := by
  match answer with
  | .error e => rfl
  | .ok [] => rfl
  | .ok (_ :: _) => rfl

theorem failure?_clone (r : Requirement) (deps : Bool) (package : String)
    (answer : Except Error Bool) :
    failure? r (.clone deps package answer) = errorOf (answer.mapError (fetchError package)) := by
  cases answer <;> rfl

theorem failure?_judge (r : Requirement) (candidates : List Path)
    (answer : Except Error (List Path)) :
    failure? r (.judge candidates answer) = errorOf (Selection.verdict r candidates answer) := by
  cases answer <;> rfl

/-- The error is one of the node, or it is the answer to a request for a package that the directory
cannot be used. -/
theorem failure?_kind {r : Requirement} {q : Exchange} {e : Error} (h : failure? r q = some e) :
    e.kind = .providerLookup ∨ e.kind = .fetch ∨ e.kind = .competition
      ∨ e.kind = .io ∧ ∃ deps package, q = .clone deps package (.error e) := by
  match q with
  | .lookup r' (.error e') =>
    cases h
    exact .inl (asKind_kind ..)
  | .lookup r' (.ok []) =>
    cases h
    exact .inl rfl
  | .clone deps package (.error e') =>
    cases h
    by_cases hk : e'.kind = .io
    · rw [fetchError, if_pos hk]
      exact .inr (.inr (.inr ⟨hk, deps, package, rfl⟩))
    · rw [fetchError, if_neg hk]
      exact .inr (.inl rfl)
  | .judge candidates (.error e') =>
    cases h
    exact .inr (.inr (.inl rfl))
  | .judge candidates (.ok installable) =>
    exact .inr (.inr (.inl (Selection.pick_error (errorOf_eq_some.mp h))))

theorem failure?_isFatal {r : Requirement} {q : Exchange} {e : Error} (h : failure? r q = some e)
    (he : e.isFatal = true) : e.kind = .io ∧ ∃ deps package, q = .clone deps package (.error e) := by
  rw [Error.isFatal] at he
  rcases failure?_kind h with hk | hk | hk | hio
  · simp [hk] at he
  · simp [hk] at he
  · simp [hk] at he
  · exact hio

theorem failure?_of_io {r : Requirement} {deps : Bool} {package : String} {e : Error}
    (h : e.kind = .io) : failure? r (.clone deps package (.error e)) = some e := by
  rw [failure?, fetchError, if_pos h]

/-! ### The steps for a node -/

variable (ctx : Context τ)

theorem blames_findProviders (n : Node) :
    Blames Session.record (failure? n.requirement) (findProviders ctx.recorded n) := by
  refine .of_request fun s => ⟨_, findProviders_record ctx n s, ?_⟩
  rw [failure?_lookup, findProviders_fst]

theorem blames_fetch (r : Requirement) (package : String) :
    Blames Progress.record (failure? r) (fetch ctx.recorded package) := by
  have hclone : Blames Session.record (failure? r)
      ((ctx.recorded.cloner.clonePackage ctx.recorded.cloneDeps package).mapError
        (fetchError package)) :=
    .of_request fun s => ⟨_, record_noting .., failure?_clone ..⟩
  exact .bind (hclone.within (fun _ => rfl) fun _ _ => rfl) fun _ =>
    .bind (.of_silent (fun _ => ⟨_, rfl⟩) fun _ => rfl) fun _ =>
      .of_silent (fun _ => ⟨_, rfl⟩) fun _ => rfl

theorem blames_fetchMissing (r : Requirement) (packages : List String) :
    Blames Progress.record (failure? r) (fetchMissing ctx.recorded packages) := by
  induction packages with
  | nil => exact .pure _
  | cons package rest ih =>
    refine .bind (.of_silent (fun _ => ⟨_, rfl⟩) fun _ => rfl) fun fetched => ?_
    cases fetched with
    | true => exact ih
    | false => exact .bind (blames_fetch ctx r package) fun _ => ih

/-- What the selection chooses among the RPMs of some candidates is the RPM of one of them. -/
theorem find?_of_choose {r : Requirement} {all : List Candidate} {chosen : Path} {s s' : Session τ}
    (h : Selection.choose ctx.arbiter r (all.map Candidate.rpm) s = (.ok chosen, s')) :
    ∃ c ∈ all, all.find? (·.rpm.sameAs chosen) = some c := by
  obtain ⟨c, hc, rfl⟩ := List.mem_map.mp (Selection.choose_mem h)
  have hsome : (all.find? (·.rpm.sameAs c.rpm)).isSome :=
    List.find?_isSome.mpr ⟨c, hc, beq_self_eq_true _⟩
  obtain ⟨d, hd⟩ := Option.isSome_iff_exists.mp hsome
  exact ⟨d, List.mem_of_find?_eq_some hd, hd⟩

/-- To choose a candidate fails exactly if the selection does. -/
theorem errorOf_chooseAmong (r : Requirement) (all : List Candidate) (s : Session τ) :
    errorOf (chooseAmong ctx r all s).1
        = errorOf (Selection.choose ctx.arbiter r (all.map Candidate.rpm) s).1
      ∧ (chooseAmong ctx r all s).2
        = (Selection.choose ctx.arbiter r (all.map Candidate.rpm) s).2 := by
  unfold chooseAmong
  rw [bind_apply]
  rcases hs : Selection.choose ctx.arbiter r (all.map Candidate.rpm) s with ⟨e | chosen, s'⟩
  · exact ⟨rfl, rfl⟩
  · obtain ⟨c, -, hc⟩ := find?_of_choose ctx hs
    rw [andThen_ok, hc]
    exact ⟨rfl, rfl⟩

theorem blames_choose (r : Requirement) (all : List Candidate) :
    Blames Session.record (failure? r) (choose ctx.recorded r all) := by
  have hamong (l : List Candidate) :
      Blames Session.record (failure? r) (chooseAmong ctx.recorded r l) := by
    refine .of_request fun s => ?_
    obtain ⟨herror, hstate⟩ := errorOf_chooseAmong ctx.recorded r l s
    refine ⟨_, by rw [hstate]; exact Selection.choose_record ctx.arbiter r _ s, ?_⟩
    rw [herror, failure?_judge, Selection.choose_fst]
    rfl
  match all with
  | [] => exact hamong []
  | [c] => exact .pure c
  | c :: d :: rest => exact hamong (c :: d :: rest)

theorem settle_record (n : Node) (c : Candidate) (p : Progress (Recorded τ)) :
    (settle ctx.recorded n c p).2.record = p.record := by
  unfold settle
  rw [bind_apply, asks_apply, andThen_ok]
  cases ctx.recorded.manifest.isPrebuiltToolchain c.rpm (p.cache.isPrebuilt c.package) <;> rfl

/-- A node that wants an RPM fails exactly if the last request that is made for it does. -/
theorem blames_resolveNode {n : Node} (hn : n.state = .unresolved) :
    Blames Progress.record (failure? n.requirement) (resolveNode ctx.recorded n) := by
  rw [resolveNode_eq ctx.recorded hn]
  refine .bind (.of_silent (fun _ => ⟨_, rfl⟩) fun _ => rfl) fun _ =>
    .bind ((blames_findProviders ctx n).within (fun _ => rfl) fun _ _ => rfl) fun providers =>
    .bind (blames_fetchMissing ctx n.requirement providers) fun _ =>
    .bind ((blames_choose ctx n.requirement _).within (fun _ => rfl) fun _ _ => rfl) fun c => ?_
  exact .of_silent (fun p => ⟨_, settle_fst ctx.recorded n c p⟩) (settle_record ctx n c)

/-! ### One node -/

/-- What was asked for a node, and the node or the error that came of it. -/
structure Dealing where
  id : NodeId
  node : Node
  asked : List Exchange
  result : Except Error Node

namespace Dealing

/-- The node that is in the graph afterwards. -/
def left (d : Dealing) : Node :=
  match d.result with
  | .ok n => n
  | .error _ => d.node

/-- The outcome for the node, or the error that ends the run. -/
def outcome (d : Dealing) : Except Error Outcome :=
  match d.result with
  | .ok n => .ok (resolvedOutcome d.id n)
  | .error e => if e.isFatal then .error e else .ok (failureOutcome d.id d.node e)

/-- A node wants an RPM. Its requirement is looked up, and then packages that the answer names are
asked for. If no request fails, the node gets the RPM of one of these packages. A request that fails
is the last one, and its error is what the node fails with. -/
structure Fits (ctx : Context τ) (d : Dealing) : Prop where
  unresolved : d.node.state = .unresolved
  asked_eq : ∃ answer more, d.asked = .lookup d.node.requirement answer :: more
    ∧ (∀ q ∈ more, Serves ctx.cloneDeps answer q)
    ∧ ∀ n, d.result = .ok n → ∃ packages, answer = .ok packages ∧ ∃ package ∈ packages,
      ∃ prebuilt, n = d.node.resolved (rpmPath package ctx.outDir) prebuilt
  fails_with : ∃ front last, d.asked = front ++ [last]
    ∧ (∀ q ∈ front, failure? d.node.requirement q = none)
    ∧ ∀ e, d.result = .error e ↔ failure? d.node.requirement last = some e

end Dealing

/-- Resolving a node is a dealing with it. -/
theorem fits_resolveNode {n : Node} (hn : n.state = .unresolved) (id : NodeId)
    (p : Progress (Recorded τ)) :
    ∃ asked, (resolveNode ctx.recorded n p).2.record = p.record ++ asked
      ∧ Dealing.Fits ctx ⟨id, n, asked, (resolveNode ctx.recorded n p).1⟩ := by
  obtain ⟨answer, more, hrec, hserves, hresolved⟩ := resolveNode_episode ctx hn p
  refine ⟨.lookup n.requirement answer :: more, hrec, hn, ⟨answer, more, rfl, hserves, ?_⟩, ?_⟩
  · intro n' hn'
    obtain ⟨packages, hanswer, package, hmem, -, heq⟩ := hresolved n' hn'
    exact ⟨packages, hanswer, package, hmem, _, heq⟩
  · rcases hr : resolveNode ctx.recorded n p with ⟨e | n', p'⟩ <;> rw [hr] at hrec
    · obtain ⟨front, last, hrec', hnone, hlast⟩ := (blames_resolveNode ctx hn).of_error p e p' hr
      refine ⟨front, last, List.append_cancel_left (hrec.symm.trans hrec'), hnone, fun e' => ?_⟩
      show Except.error e = .error e' ↔ failure? n.requirement last = some e'
      rw [hlast, Except.error.injEq, Option.some.injEq]
    · obtain ⟨asked, hrec', hnone⟩ := (blames_resolveNode ctx hn).of_ok p n' p' hr
      have hasked : asked = .lookup n.requirement answer :: more :=
        List.append_cancel_left (hrec'.symm.trans hrec)
      obtain ⟨front, last, hlast⟩ : ∃ front last, asked = front ++ [last] := by
        rcases List.eq_nil_or_concat asked with h | ⟨front, last, h⟩
        · rw [hasked] at h
          cases h
        · exact ⟨front, last, by rw [h, List.concat_eq_append]⟩
      refine ⟨front, last, hasked.symm.trans hlast, fun q hq => hnone q ?_, fun e => ?_⟩
      · rw [hlast]
        exact List.mem_append_left _ hq
      · show Except.ok n' = .error e ↔ failure? n.requirement last = some e
        rw [hnone last (by rw [hlast]; exact List.mem_append_right _ (List.mem_singleton_self _))]
        simp

variable {ctx}

theorem Dealing.outcome_eq_error {d : Dealing} {e : Error} :
    d.outcome = .error e ↔ d.result = .error e ∧ e.isFatal = true := by
  unfold Dealing.outcome
  match d.result with
  | .ok n => simp
  | .error e' =>
    dsimp only
    cases hfatal : e'.isFatal with
    | true =>
      rw [if_pos rfl, Except.error.injEq, Except.error.injEq]
      exact ⟨fun h => ⟨h, h ▸ hfatal⟩, fun h => h.1⟩
    | false =>
      rw [if_neg (by decide), Except.error.injEq]
      constructor
      · intro h
        cases h
      · rintro ⟨rfl, he⟩
        rw [hfatal] at he
        cases he

/-- The dealing with a node ends the run exactly if the directory cannot be used when a package is
asked for. -/
theorem Dealing.Fits.outcome_eq_error {d : Dealing} (h : d.Fits ctx) {e : Error} :
    d.outcome = .error e
      ↔ e.kind = .io ∧ ∃ deps package, .clone deps package (.error e) ∈ d.asked := by
  obtain ⟨front, last, hasked, hnone, hlast⟩ := h.fails_with
  rw [Dealing.outcome_eq_error, hlast]
  constructor
  · rintro ⟨hfail, hfatal⟩
    obtain ⟨hk, deps, package, rfl⟩ := failure?_isFatal hfail hfatal
    exact ⟨hk, deps, package, by rw [hasked]; exact List.mem_append_right _ List.mem_cons_self⟩
  · rintro ⟨hk, deps, package, hmem⟩
    have hfail : failure? d.node.requirement (.clone deps package (.error e)) = some e :=
      failure?_of_io hk
    rw [hasked] at hmem
    rcases List.mem_append.mp hmem with hmem | hmem
    · rw [hnone _ hmem] at hfail
      cases hfail
    · rw [← List.mem_singleton.mp hmem]
      exact ⟨hfail, by rw [Error.isFatal, hk]⟩

/-- A node is never dealt with that does not want an RPM. -/
theorem Dealing.Fits.ne_notUnresolved {d : Dealing} (h : d.Fits ctx) (n : Node) :
    d.result ≠ .error (GraphFault.notUnresolved n).toError := by
  obtain ⟨front, last, -, -, hlast⟩ := h.fails_with
  intro hresult
  have hkind : (GraphFault.notUnresolved n).toError.kind = .graph := rfl
  rcases failure?_kind ((hlast _).mp hresult) with hk | hk | hk | ⟨hk, -⟩ <;>
    rw [hkind] at hk <;> cases hk

/-- A node of the graph is dealt with, and the others stay. -/
theorem resolveAt_dealing (ctx : Context τ) {id : NodeId} {n : Node} {s : RunState (Recorded τ)}
    (hid : s.graph.node? id = some n) (hn : n.state = .unresolved) :
    ∃ d : Dealing, d.id = id ∧ d.node = n ∧ d.Fits ctx
      ∧ (resolveAt ctx.recorded id n s).2.record = s.record ++ d.asked
      ∧ (resolveAt ctx.recorded id n s).1 = d.outcome
      ∧ (resolveAt ctx.recorded id n s).2.graph.node? id = some d.left
      ∧ ∀ id' ≠ id, (resolveAt ctx.recorded id n s).2.graph.node? id' = s.graph.node? id' := by
  obtain ⟨asked, hrec, hfits⟩ := fits_resolveNode ctx hn id s.progress
  rcases hr : resolveNode ctx.recorded n s.progress with ⟨e | n', p⟩ <;> rw [hr] at hrec hfits
  · refine ⟨_, rfl, rfl, hfits, ?_⟩
    rw [resolveAt_of_error hr]
    unfold Dealing.outcome Dealing.left
    dsimp only
    cases he : e.isFatal with
    | true =>
      rw [fail_of_isFatal he]
      exact ⟨hrec, rfl, hid, fun _ _ => rfl⟩
    | false =>
      obtain ⟨w, hw⟩ := fail_of_not_isFatal he id n ⟨s.graph, p⟩
      rw [hw]
      exact ⟨hrec, rfl, hid, fun _ _ => rfl⟩
  · refine ⟨_, rfl, rfl, hfits, ?_⟩
    rw [resolveAt_of_ok hr]
    exact ⟨hrec, rfl, Graph.node?_setNode_self .., fun _ hne => Graph.node?_setNode_of_ne _ n' hne⟩

/-! ### The nodes one after another -/

/-- How a run over nodes ends: with the outcomes of all of them, or in the error of the last one that
it deals with. -/
inductive Concluded (ids : List NodeId) : List Dealing → Except Error (List Outcome) → Prop
  | through {dealings : List Dealing} {outcomes : List Outcome}
      (hids : dealings.map Dealing.id = ids)
      (houtcomes : dealings.map Dealing.outcome = outcomes.map .ok) :
      Concluded ids dealings (.ok outcomes)
  | broken {dealings : List Dealing} {d : Dealing} {outcomes : List Outcome} {e : Error}
      (hids : (dealings ++ [d]).map Dealing.id <+: ids)
      (houtcomes : dealings.map Dealing.outcome = outcomes.map .ok) (herror : d.outcome = .error e) :
      Concluded ids (dealings ++ [d]) (.error e)

theorem Concluded.cons {ids : List NodeId} {dealings : List Dealing}
    {result : Except Error (List Outcome)} (h : Concluded ids dealings result) {d : Dealing}
    {o : Outcome} (ho : d.outcome = .ok o) :
    Concluded (d.id :: ids) (d :: dealings) (result.map (o :: ·)) := by
  cases h with
  | through hids houtcomes =>
    refine .through (by rw [List.map_cons, hids]) ?_
    rw [List.map_cons, ho, houtcomes, List.map_cons]
  | @broken dealings last outcomes e hids houtcomes herror =>
    have houtcomes' : (d :: dealings).map Dealing.outcome = (o :: outcomes).map .ok := by
      rw [List.map_cons, ho, houtcomes, List.map_cons]
    have hids' : ((d :: dealings) ++ [last]).map Dealing.id <+: d.id :: ids :=
      (List.prefix_cons_inj d.id).mpr hids
    exact .broken hids' houtcomes' herror

/-- An error that the dealing with a node ends in is the error that the run ends in. -/
theorem Concluded.eq_error_iff {ids : List NodeId} {dealings : List Dealing}
    {result : Except Error (List Outcome)} (h : Concluded ids dealings result) {e : Error} :
    result = .error e ↔ ∃ d ∈ dealings, d.outcome = .error e := by
  have hok {dealings : List Dealing} {outcomes : List Outcome}
      (houtcomes : dealings.map Dealing.outcome = outcomes.map .ok) {d : Dealing}
      (hd : d ∈ dealings) : d.outcome ≠ .error e := by
    intro he
    have hmem : d.outcome ∈ outcomes.map (Except.ok (ε := Error)) :=
      houtcomes ▸ List.mem_map_of_mem hd
    obtain ⟨o, -, ho⟩ := List.mem_map.mp hmem
    rw [he] at ho
    cases ho
  cases h with
  | through hids houtcomes =>
    constructor
    · intro h
      cases h
    · rintro ⟨d, hd, he⟩
      exact absurd he (hok houtcomes hd)
  | @broken dealings last outcomes e' hids houtcomes herror =>
    constructor
    · intro h
      cases h
      exact ⟨last, List.mem_append_right _ List.mem_cons_self, herror⟩
    · rintro ⟨d, hd, he⟩
      rcases List.mem_append.mp hd with hd | hd
      · exact absurd he (hok houtcomes hd)
      · rw [List.mem_singleton.mp hd, herror] at he
        cases he
        rfl

/-- What a run over nodes does to a graph: each node that it deals with becomes what came of it, and
the others stay. -/
structure Dealt (ctx : Context τ) (start final : Graph) (dealings : List Dealing) : Prop where
  fits : ∀ d ∈ dealings, d.Fits ctx
  before : ∀ d ∈ dealings, start.node? d.id = some d.node
  after : ∀ d ∈ dealings, final.node? d.id = some d.left
  others : ∀ id ∉ dealings.map Dealing.id, final.node? id = start.node? id

theorem Concluded.subset {ids : List NodeId} {dealings : List Dealing}
    {result : Except Error (List Outcome)} (h : Concluded ids dealings result) :
    dealings.map Dealing.id ⊆ ids := by
  cases h with
  | through hids => exact hids ▸ List.Subset.refl _
  | broken hids => exact hids.subset

/-- A run over nodes that want an RPM deals with them one after another. -/
theorem resolveNodes_dealt (ctx : Context τ) {ids : List NodeId} {s : RunState (Recorded τ)}
    (hw : Wanting s.graph ids) :
    ∃ dealings, Dealt ctx s.graph (resolveNodes ctx.recorded ids s).2.graph dealings
      ∧ Concluded ids dealings (resolveNodes ctx.recorded ids s).1
      ∧ (resolveNodes ctx.recorded ids s).2.record
        = s.record ++ dealings.flatMap Dealing.asked := by
  induction ids generalizing s with
  | nil =>
    refine ⟨[], ⟨?_, ?_, ?_, fun _ _ => rfl⟩, .through rfl rfl, (List.append_nil _).symm⟩ <;>
      exact fun _ hd => absurd hd List.not_mem_nil
  | cons id rest ih =>
    obtain ⟨n, hid, hn⟩ := hw.2 id List.mem_cons_self
    obtain ⟨d, rfl, rfl, hfits, hrec, houtcome, hleft, hothers⟩ :=
      resolveAt_dealing ctx hid hn
    rw [resolveNodes_cons_apply hid]
    rcases ho : resolveAt ctx.recorded d.id d.node s with ⟨e | o, s₁⟩ <;>
      rw [ho] at hrec houtcome hleft hothers
    · -- the error of this node ends the run
      have hends : Concluded (d.id :: rest) ([] ++ [d]) (.error e) :=
        .broken (List.prefix_append [d.id] rest) (List.map_nil.trans List.map_nil.symm) houtcome.symm
      refine ⟨[d], ⟨?_, ?_, ?_, ?_⟩, hends, ?_⟩
      · exact fun d' hd' => List.mem_singleton.mp hd' ▸ hfits
      · exact fun d' hd' => List.mem_singleton.mp hd' ▸ hid
      · exact fun d' hd' => List.mem_singleton.mp hd' ▸ hleft
      · exact fun id' hid' => hothers id' fun heq => hid' (heq ▸ List.mem_singleton_self _)
      · rw [List.flatMap_singleton]
        exact hrec
    · obtain ⟨dealings, hdealt, hconcluded, hrest⟩ := ih (hw.rest ho)
      have hfresh : d.id ∉ dealings.map Dealing.id := fun hmem =>
        (List.nodup_cons.mp hw.1).1 (hconcluded.subset hmem)
      have hne : ∀ d' ∈ dealings, d'.id ≠ d.id := fun d' hd' heq =>
        hfresh (heq ▸ List.mem_map_of_mem hd')
      have hstate : (andThen (fun o => resolveNodes ctx.recorded rest >>= fun more =>
          pure (o :: more)) (.ok o, s₁)).2 = (resolveNodes ctx.recorded rest s₁).2 :=
        snd_bind_pure ..
      have hresult : (andThen (fun o => resolveNodes ctx.recorded rest >>= fun more =>
          pure (o :: more)) (.ok o, s₁)).1
          = (resolveNodes ctx.recorded rest s₁).1.map (o :: ·) := by
        rw [andThen_ok, bind_apply]
        rcases resolveNodes ctx.recorded rest s₁ with ⟨e | more, s₂⟩ <;> rfl
      rw [hstate, hresult]
      refine ⟨d :: dealings, ⟨?_, ?_, ?_, ?_⟩, hconcluded.cons houtcome.symm, ?_⟩
      · exact List.forall_mem_cons.mpr ⟨hfits, hdealt.fits⟩
      · refine List.forall_mem_cons.mpr ⟨hid, fun d' hd' => ?_⟩
        rw [← hothers d'.id (hne d' hd')]
        exact hdealt.before d' hd'
      · refine List.forall_mem_cons.mpr ⟨?_, hdealt.after⟩
        rw [hdealt.others d.id hfresh]
        exact hleft
      · intro id' hid'
        rw [List.map_cons, List.mem_cons, not_or] at hid'
        rw [hdealt.others id' hid'.2, hothers id' hid'.1]
      · rw [hrest, hrec, List.append_assoc, List.flatMap_cons]

/-! ### The end of a run -/

/-- A request for a package has ended in the error, and has left the session. -/
def Interrupted (ctx : Context τ) (e : Error) (left : Session τ) : Prop :=
  ∃ package s, ctx.cloner.clonePackage ctx.cloneDeps package s = (.error e, left)

theorem interrupted_of_fetchMissing {packages : List String} {p p' : Progress τ} {e : Error}
    (h : fetchMissing ctx packages p = (.error e, p')) (he : e.kind = .io) :
    Interrupted ctx e p'.session := by
  induction packages generalizing p with
  | nil => cases h
  | cons package rest ih =>
    cases hgot : p.cache.isFetched package with
    | true =>
      rw [fetchMissing_of_fetched hgot] at h
      exact ih h
    | false =>
      rw [fetchMissing_of_missing hgot] at h
      rcases hclone : ctx.cloner.clonePackage ctx.cloneDeps package p.session with ⟨e' | prebuilt, s⟩
      · rw [fetch_of_error hclone, andThen_error] at h
        cases h
        by_cases hk : e'.kind = .io
        · rw [fetchError, if_pos hk]
          exact ⟨package, p.session, hclone⟩
        · rw [fetchError, if_neg hk] at he
          cases he
      · obtain ⟨event, hfetch⟩ := fetch_of_ok hclone
        rw [hfetch, andThen_ok] at h
        exact ih h

/-- Only a request for a package interrupts the dealing with a node in such a way. -/
theorem interrupted_of_resolveNode {n : Node} {p p' : Progress τ} {e : Error}
    (h : resolveNode ctx n p = (.error e, p')) (he : e.kind = .io) : Interrupted ctx e p'.session := by
  by_cases hn : n.state = .unresolved
  · rw [resolveNode_of_unresolved ctx hn] at h
    rcases hproviders : (findProviders ctx n (begun n p.session)).1 with e' | providers
    · rw [hproviders, andThen_error] at h
      cases h
      have hkind := (fails_findProviders ctx n).of_error _ e hproviders
      rw [he] at hkind
      cases hkind
    · rw [hproviders, andThen_ok] at h
      rcases bind_eq_error.mp h with h | ⟨_, p₁, -, h⟩
      · exact interrupted_of_fetchMissing h he
      · have hfails : Fails (fun e => e.kind = .competition) (Progress.onSession
            (choose ctx n.requirement (candidates ctx.outDir providers)) >>= settle ctx n) :=
          .bind (fails_choose ..).within fun c => .of_ok fun p => ⟨_, settle_fst ctx n c p⟩
        have hkind := hfails.of_error p₁ e (congrArg Prod.fst h)
        rw [he] at hkind
        cases hkind
  · rw [resolveNode_of_resolved ctx hn] at h
    cases h
    cases he

theorem interrupted_of_resolveAt {id : NodeId} {n : Node} {s s' : RunState τ} {e : Error}
    (h : resolveAt ctx id n s = (.error e, s')) (he : e.kind = .io) :
    Interrupted ctx e s'.progress.session := by
  rcases hr : resolveNode ctx n s.progress with ⟨e' | n', p⟩
  · rw [resolveAt_of_error hr] at h
    cases hfatal : e'.isFatal with
    | true =>
      rw [fail_of_isFatal hfatal] at h
      cases h
      exact interrupted_of_resolveNode hr he
    | false =>
      obtain ⟨w, hw⟩ := fail_of_not_isFatal hfatal id n ⟨s.graph, p⟩
      cases hw.symm.trans h
  · rw [resolveAt_of_ok hr] at h
    cases h

theorem interrupted_of_resolveNodes {ids : List NodeId} {s s' : RunState τ} {e : Error}
    (h : resolveNodes ctx ids s = (.error e, s')) (he : e.kind = .io) :
    Interrupted ctx e s'.progress.session := by
  induction ids generalizing s with
  | nil => cases h
  | cons id rest ih =>
    rw [resolveNodes, bind_apply, asks_apply, andThen_ok] at h
    cases hid : s.graph.node? id with
    | none =>
      rw [hid] at h
      exact ih h
    | some n =>
      rw [hid] at h
      rcases bind_eq_error.mp h with h | ⟨o, s₁, -, h⟩
      · exact interrupted_of_resolveAt h he
      · rcases bind_eq_error.mp h with h | ⟨more, s₂, -, h⟩
        · exact ih h
        · cases h

/-- A run that does not get through its nodes ends with them. -/
theorem resolveUnresolved_eq_error {s s' : RunState τ} {e : Error}
    (h : resolveUnresolved ctx s = (.error e, s')) :
    ∃ s₀, resolveNodes ctx s.graph.unresolvedRunNodes s₀ = (.error e, s') := by
  rcases bind_eq_error.mp h with h | ⟨_, s₁, h₁, h⟩
  · cases h
  cases h₁
  rcases bind_eq_error.mp h with h | ⟨_, s₂, h₂, h⟩
  · cases h
  cases h₂
  rcases bind_eq_error.mp h with h | ⟨_, s₃, h₃, h⟩
  · cases h
  cases h₃
  rcases bind_eq_error.mp h with h | ⟨_, s₄, -, h⟩
  · exact ⟨_, h⟩
  · cases h

/-- After the request that ends a run nothing is done any more. -/
theorem interrupted_of_resolveUnresolved {s s' : RunState τ} {e : Error}
    (h : resolveUnresolved ctx s = (.error e, s')) : Interrupted ctx e s'.progress.session := by
  have he : e.kind = .io := (fails_resolveUnresolved ctx).of_error s e (by rw [h])
  obtain ⟨s₀, hnodes⟩ := resolveUnresolved_eq_error h
  exact interrupted_of_resolveNodes hnodes he

theorem resolveUnresolved_dealt (ctx : Context τ) (s : RunState (Recorded τ)) :
    ∃ dealings result, (resolveUnresolved ctx.recorded s).1 = result.map (Report.mk · false)
      ∧ Dealt ctx s.graph (resolveUnresolved ctx.recorded s).2.graph dealings
      ∧ Concluded s.graph.unresolvedRunNodes dealings result
      ∧ (resolveUnresolved ctx.recorded s).2.record
        = s.record ++ dealings.flatMap Dealing.asked := by
  obtain ⟨s₀, w, hgraph, -, hagent, hfst, hsnd⟩ := resolveUnresolved_apply ctx.recorded s
  have hwanting : Wanting s₀.graph s.graph.unresolvedRunNodes := by
    rw [hgraph]
    exact wanting_unresolvedRunNodes s.graph
  obtain ⟨dealings, hdealt, hconcluded, hrecord⟩ := resolveNodes_dealt ctx hwanting
  rw [hgraph] at hdealt
  refine ⟨dealings, _, hfst, ?_, hconcluded, ?_⟩
  · rw [hsnd]
    exact hdealt
  · rw [hsnd]
    show (resolveNodes ctx.recorded _ s₀).2.record = _
    rw [hrecord]
    show s₀.progress.session.agent.record ++ _ = _
    rw [hagent]
    rfl

/-- The run over the nodes ends in an error exactly if that is the answer to a request for a package. -/
theorem Dealt.eq_error_iff {start final : Graph} {ids : List NodeId} {dealings : List Dealing}
    {result : Except Error (List Outcome)} (h : Dealt ctx start final dealings)
    (hconcluded : Concluded ids dealings result) {e : Error} :
    result = .error e ↔ e.kind = .io
      ∧ ∃ deps package, .clone deps package (.error e) ∈ dealings.flatMap Dealing.asked := by
  rw [hconcluded.eq_error_iff]
  constructor
  · rintro ⟨d, hd, he⟩
    obtain ⟨hk, deps, package, hmem⟩ := (h.fits d hd).outcome_eq_error.mp he
    exact ⟨hk, deps, package, List.mem_flatMap.mpr ⟨d, hd, hmem⟩⟩
  · rintro ⟨hk, deps, package, hmem⟩
    obtain ⟨d, hd, hmem⟩ := List.mem_flatMap.mp hmem
    exact ⟨d, hd, (h.fits d hd).outcome_eq_error.mpr ⟨hk, deps, package, hmem⟩⟩

/-- The request that ends a run is the last one in the record, and the run leaves what it has left. -/
theorem interrupted_recorded {s s' : RunState (Recorded τ)} {e : Error}
    (h : resolveUnresolved ctx.recorded s = (.error e, s')) :
    ∃ package front t, s'.record = front ++ [.clone ctx.cloneDeps package (.error e)]
      ∧ ctx.cloner.clonePackage ctx.cloneDeps package t = (.error e, s'.forget.progress.session) := by
  obtain ⟨package, t, hclone⟩ := interrupted_of_resolveUnresolved h
  obtain ⟨hanswer, hleft⟩ := Prod.mk.inj hclone
  refine ⟨package, t.record, t.forget, ?_, Prod.ext hanswer ?_⟩
  · show s'.progress.session.record = _
    rw [← hleft, ← hanswer]
    rfl
  · show _ = s'.progress.session.forget
    rw [← hleft]
    rfl

/-- Whatever the cloner and the arbiter answer, errors of any kind among it, a run without a summary
deals with the nodes that want an RPM one after another. A request that fails ends the dealing with
its node, and becomes the outcome of this node; no error comes up that is not the error of a request.
The run over the nodes ends in an error exactly if the directory turns out unusable when a package is
asked for, and then in that error. After this request nothing is asked for and nothing is saved: the
run leaves all as the request has left it, with the nodes that were dealt with before as they have
become, and this node and all others as they were. -/
theorem ends_only_if_unusable (ctx : Context τ) (outputSummary : Option Path) (stopOnFailure : Bool)
    (start : RunState τ) :
    ∃ dealings more result,
      resolveGraph ctx.recorded ⟨none, outputSummary, stopOnFailure⟩ (start.withRecord [])
        = ((resolveGraph ctx ⟨none, outputSummary, stopOnFailure⟩ start).1,
          (resolveGraph ctx ⟨none, outputSummary, stopOnFailure⟩ start).2.withRecord
            (dealings.flatMap Dealing.asked ++ more))
      ∧ (resolveUnresolved ctx start).1 = result.map (Report.mk · false)
      ∧ Dealt ctx start.graph
        (resolveGraph ctx ⟨none, outputSummary, stopOnFailure⟩ start).2.graph dealings
      ∧ Concluded start.graph.unresolvedRunNodes dealings result
      ∧ (∀ q ∈ more, ∃ summary, q = .contents summary)
      ∧ (∀ e, result = .error e ↔ e.kind = .io
        ∧ ∃ deps package, .clone deps package (.error e) ∈ dealings.flatMap Dealing.asked ++ more)
      ∧ (∀ e, result = .error e → more = []
        ∧ resolveGraph ctx ⟨none, outputSummary, stopOnFailure⟩ start
          = (.error e, (resolveUnresolved ctx start).2)
        ∧ ∃ package front s, dealings.flatMap Dealing.asked
            = front ++ [.clone ctx.cloneDeps package (.error e)]
          ∧ ctx.cloner.clonePackage ctx.cloneDeps package s
            = (.error e, (resolveUnresolved ctx start).2.progress.session))
      ∧ (∀ d ∈ dealings, ∀ n, d.result ≠ .error (GraphFault.notUnresolved n).toError)
      ∧ ∀ (r : Requirement) (all : List Candidate) (s s' : Session τ) (chosen : Path),
        Selection.choose ctx.arbiter r (all.map Candidate.rpm) s = (.ok chosen, s') →
          ∃ c ∈ all, all.find? (·.rpm.sameAs chosen) = some c := by
  have hmirror := (mirrors_resolveGraph ctx ⟨none, outputSummary, stopOnFailure⟩).run_forget
    (start.withRecord [])
  have hmirrorLoop := (mirrors_resolveUnresolved ctx).run_forget (start.withRecord [])
  rw [RunState.forget_withRecord] at hmirror hmirrorLoop
  obtain ⟨dealings, result, hresult, hdealt, hconcluded, hrecord⟩ :=
    resolveUnresolved_dealt ctx (start.withRecord [])
  change (resolveUnresolved ctx.recorded (start.withRecord [])).2.record
    = dealings.flatMap Dealing.asked at hrecord
  have hclones (e : Error) := hdealt.eq_error_iff hconcluded (e := e)
  have hguards : ∀ d ∈ dealings, ∀ n, d.result ≠ .error (GraphFault.notUnresolved n).toError :=
    fun d hd => (hdealt.fits d hd).ne_notUnresolved
  rcases hloop : resolveUnresolved ctx.recorded (start.withRecord []) with ⟨e | report, s₁⟩ <;>
    rw [hloop] at hresult hdealt hrecord hmirrorLoop
  · have hrun : resolveGraph ctx.recorded ⟨none, outputSummary, stopOnFailure⟩ (start.withRecord [])
        = (.error e, s₁) := resolveGraph_of_resolveUnresolved_error rfl hloop
    rw [hrun] at hmirror ⊢
    rw [hmirror, hmirrorLoop]
    refine ⟨dealings, [], result, ?_, hresult, hdealt, hconcluded, ?_, ?_, ?_, hguards,
      fun r all s s' chosen => find?_of_choose ctx⟩
    · rw [List.append_nil, ← hrecord]
      rfl
    · exact fun _ hq => absurd hq List.not_mem_nil
    · rwa [List.append_nil]
    · rintro e' rfl
      cases hresult
      obtain ⟨package, front, s, hlast, hleft⟩ := interrupted_recorded hloop
      exact ⟨rfl, rfl, package, front, s, hrecord.symm.trans hlast, hleft⟩
  · have hrun : resolveGraph ctx.recorded ⟨none, outputSummary, stopOnFailure⟩ (start.withRecord [])
        = finish ctx.recorded ⟨none, outputSummary, stopOnFailure⟩ report s₁ :=
      resolveGraph_of_resolveUnresolved rfl hloop
    obtain ⟨more, hmore, hcontents⟩ := (extends_finish_contents ctx
      ⟨none, outputSummary, stopOnFailure⟩ report).exists_more s₁
    have hgraph := (finish_apply ctx.recorded ⟨none, outputSummary, stopOnFailure⟩ report s₁).1
    rw [hrun] at hmirror ⊢
    rw [hmirror, hmirrorLoop]
    refine ⟨dealings, more, result, ?_, hresult, ?_, hconcluded, hcontents, fun e => ?_,
      fun e he => ?_, hguards, fun r all s s' chosen => find?_of_choose ctx⟩
    · rw [← hrecord, ← hmore]
      rfl
    · show Dealt ctx start.graph
        (finish ctx.recorded ⟨none, outputSummary, stopOnFailure⟩ report s₁).2.graph dealings
      rw [hgraph]
      exact hdealt
    · -- what is asked for after the nodes is not a package
      rw [hclones]
      refine and_congr_right fun _ => exists_congr fun deps => exists_congr fun package => ?_
      rw [List.mem_append, or_iff_left]
      intro hmem
      obtain ⟨summary, hq⟩ := hcontents _ hmem
      cases hq
    · rw [he] at hresult
      cases hresult

/-- An error in the configuration of the cloner is fatal elsewhere. Here it is what the nodes whose
packages were asked for fail with. -/
example :
    (resolveUnresolved { zlibOnly with
        cloner := .ofAnswers (fun r => .ok [r.name]) fun _ _ => .error ⟨.config, "no repository"⟩ }
      zlibStart).1
    = .ok ⟨[.hardFailure 0 ("failed to fetch package: failed to clone 'zlib' from RPM repo: "
          ++ "configuration error: no repository"),
        .hardFailure 1 ("failed to fetch package: failed to clone 'curl' from RPM repo: "
          ++ "configuration error: no repository")], false⟩ := rfl

end Resolution

end RpmProvision
