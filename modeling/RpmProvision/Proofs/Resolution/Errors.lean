/-
Which errors a run can end in.

Most errors concern one node and become outcomes. A run ends in an error only if the output directory
cannot be used, if a summary cannot be taken over or saved, or if it is to stop on failures.

* **`kind_of_resolveNodes`** — over nodes that want an RPM only an unusable directory ends the run;
* **`fails_resolveGraph`** — the kinds of error that a run ends in.
-/
import RpmProvision.Proofs.Resolution.Outcomes

namespace RpmProvision.Resolution

open Step

variable {τ : Type} (ctx : Context τ)

/-! ### Steps over a part of the state -/

theorem fails_onWorld {α : Type} {P : Error → Prop} {x : Step World Error α} (h : Fails P x) :
    Fails P (Session.onWorld (τ := τ) x) := h.within

theorem fails_onSession {α : Type} {P : Error → Prop} {x : Step (Session τ) Error α}
    (h : Fails P x) : Fails P (RunState.onSession x) := by
  have hprogress : Fails P (Progress.onSession x) := h.within
  show Fails P (RunState.onProgress (Progress.onSession x))
  exact hprogress.within

/-! ### The nodes -/

theorem fails_findProviders (n : Node) :
    Fails (fun e => e.kind = .providerLookup) (findProviders ctx n) := by
  refine ⟨fun s e he => ?_⟩
  rw [findProviders_fst] at he
  cases hq : namesNothing (ctx.cloner.whatProvides n.requirement (announced n s)).1 with
  | true =>
    obtain ⟨e', he', hk⟩ := found_of_namesNothing (r := n.requirement) hq
    cases he.symm.trans he'
    exact hk
  | false =>
    obtain ⟨packages, hp⟩ := found_of_not_namesNothing (r := n.requirement) hq
    cases he.symm.trans hp

/-- A node that wants an RPM fails for good for all nodes only if a directory cannot be used. -/
theorem fails_resolveNode {n : Node} (hn : n.state = .unresolved) :
    Fails (fun e => e.isFatal → e.kind = .io) (resolveNode ctx n) := by
  have hfrom (providers : List String) :
      Fails (fun e => e.isFatal → e.kind = .io) (resolveFrom ctx n providers) := by
    refine .bind ((fails_fetchMissing ctx providers).mono fun e he hf => ?_) fun _ =>
      .bind (((fails_choose ctx _ _).mono fun e he hf => ?_).within) fun c =>
        .of_ok fun p => ⟨_, settle_fst ctx n c p⟩
    · rcases he with he | he
      · exact he
      · simp [Error.isFatal, he] at hf
    · simp [Error.isFatal, he] at hf
  rw [resolveNode_eq ctx hn]
  refine .bind (.of_ok fun _ => ⟨_, rfl⟩) fun _ =>
    .bind (((fails_findProviders ctx n).mono fun e he hf => ?_).within) fun providers =>
      hfrom providers
  simp [Error.isFatal, he] at hf

/-- Dealing with a node that wants an RPM ends in an error only if a directory cannot be used. -/
theorem fails_resolveAt (id : NodeId) {n : Node} (hn : n.state = .unresolved) :
    Fails (fun e => e.kind = .io) (resolveAt ctx id n) := by
  refine ⟨fun s e he => ?_⟩
  rcases hr : resolveNode ctx n s.progress with ⟨e' | n', p⟩
  · rw [resolveAt_of_error hr] at he
    cases hf : e'.isFatal with
    | true =>
      rw [fail_of_isFatal hf] at he
      cases he
      exact (fails_resolveNode ctx hn).of_error s.progress e (by rw [hr]) hf
    | false =>
      obtain ⟨w, hw⟩ := fail_of_not_isFatal hf id n ⟨s.graph, p⟩
      rw [hw] at he
      cases he
  · rw [resolveAt_of_ok hr] at he
    cases he

/-- Over nodes that want an RPM a run ends in an error only if a directory cannot be used. -/
theorem kind_of_resolveNodes {ids : List NodeId} {s s' : RunState τ} {e : Error}
    (hw : Wanting s.graph ids) (h : resolveNodes ctx ids s = (.error e, s')) : e.kind = .io := by
  -- the nodes that are left still want an RPM after each step
  induction ids generalizing s with
  | nil => cases h
  | cons id rest ih =>
    obtain ⟨n, hid, hn⟩ := hw.2 id List.mem_cons_self
    rw [resolveNodes, bind_apply, asks_apply, andThen_ok, hid] at h
    rcases bind_eq_error.mp h with hat | ⟨o, s₁, ho, h⟩
    · exact (fails_resolveAt ctx id hn).of_error s e (by rw [hat])
    · rcases bind_eq_error.mp h with hrest | ⟨more, s₂, -, h⟩
      · exact ih (hw.rest ho) hrest
      · cases h

theorem fails_resolveUnresolved : Fails (fun e => e.kind = .io) (resolveUnresolved ctx) := by
  refine ⟨fun s e he => ?_⟩
  obtain ⟨s₀, -, hgraph, -, -, hfst, -⟩ := resolveUnresolved_apply ctx s
  rw [hfst] at he
  rcases hr : resolveNodes ctx s.graph.unresolvedRunNodes s₀ with ⟨e' | outcomes, s₁⟩
  · rw [hr] at he
    cases he
    refine kind_of_resolveNodes ctx ?_ hr
    rw [hgraph]
    exact wanting_unresolvedRunNodes s.graph
  · rw [hr] at he
    cases he

/-! ### The summaries -/

theorem fails_load (path : Path) : Fails (fun e => e.kind = .summaryRestore) (Summary.load path) := by
  refine .bind (.mapError (P := fun _ => True) ⟨fun _ _ _ => trivial⟩ fun _ _ => rfl) fun text => ?_
  cases Summary.parse? text with
  | none => exact .fail rfl
  | some s =>
    dsimp only
    by_cases h : s.version = Summary.currentVersion
    · rw [if_pos h]
      exact .pure s
    · rw [if_neg h]
      exact .fail rfl

theorem fails_restoreFrom (path : Path) :
    Fails (fun e => e.kind = .summaryRestore) (restoreFrom ctx path) := by
  have hrestore : Fails (fun e => e.kind = .summaryRestore) (ctx.cloner.restoreContents path) := by
    refine .bind (fails_onWorld (fails_load path)) fun summary =>
      .bind ?_ fun _ => .of_ok fun _ => ⟨_, rfl⟩
    exact .mapError (P := fun _ => True) ⟨fun _ _ _ => trivial⟩ fun e _ => asKind_kind _ e
  refine .bind (.of_ok fun _ => ⟨_, rfl⟩) fun _ => .bind ?_ fun _ => .pure _
  exact fails_onSession (hrestore.onError _)

theorem fails_saveTo (path : Option Path) :
    Fails (fun e => e.kind = .summarySave) (saveTo ctx path) := by
  cases path with
  | none => exact .pure _
  | some path =>
    have hsave : Fails (fun e => e.kind = .summarySave) (ctx.cloner.saveContents path) := by
      refine .bind (.of_ok fun _ => ⟨_, rfl⟩) fun summary =>
        .bind (fails_onWorld ?_) fun _ => .of_ok fun _ => ⟨_, rfl⟩
      exact .mapError (P := fun _ => True) ⟨fun _ _ _ => trivial⟩ fun _ _ => rfl
    exact fails_onSession (hsave.onError _)

/-! ### A whole run -/

theorem fails_judge (stopOnFailure : Bool) (report : Report) :
    Fails (fun e => e.kind = .stopOnFailure) (judge (τ := τ) stopOnFailure report) := by
  unfold judge
  cases stopOnFailure && report.hasHardFailures with
  | true => exact .bind (.of_ok fun _ => ⟨_, rfl⟩) fun _ => .fail rfl
  | false => exact .pure _

/-- The kinds of error that a run over a graph ends in. -/
def EndsRun (e : Error) : Prop :=
  e.kind = .io ∨ e.kind = .summaryRestore ∨ e.kind = .summarySave ∨ e.kind = .stopOnFailure

theorem fails_resolveGraph (options : RunOptions) : Fails EndsRun (resolveGraph ctx options) := by
  have hsave (report : Report) : Fails EndsRun (saveTo ctx options.outputSummary >>= fun _ =>
      pure report) := by
    refine .bind ((fails_saveTo ctx _).mono fun e he => ?_) fun _ => .pure _
    exact .inr (.inr (.inl he))
  refine .bind ?_ fun report => (fails_judge _ report).mono fun e he => .inr (.inr (.inr he))
  unfold provision
  cases options.inputSummary with
  | none => exact .bind ((fails_resolveUnresolved ctx).mono fun e he => .inl he) hsave
  | some path =>
    exact .bind ((fails_restoreFrom ctx path).mono fun e he => .inr (.inl he)) hsave

end RpmProvision.Resolution
