/-
What resolving a node can end in.

A node is resolved only if it wants an RPM, and then it gets one and nothing else of it changes. The
kind of an error tells the stage that failed: looking up providers, getting packages, or choosing
among them.

* **`resolveNode_eq_ok`** — the node that comes out;
* **`resolveNode_recorded`** — the one lookup, its answer, and when nothing provides the requirement.
-/
import RpmProvision.Proofs.Exchanges

namespace RpmProvision.Resolution

open Step

variable {τ : Type}

/-! ### The resolved node -/

@[simp] theorem resolved_rpmPath (n : Node) (rpm : Path) (b : Bool) :
    (n.resolved rpm b).rpmPath = some rpm := by
  cases b <;> rfl

theorem resolved_state (n : Node) (rpm : Path) (b : Bool) :
    (n.resolved rpm b).state = if b then .upToDate else .cached := by
  cases b <;> rfl

theorem resolved_kind (n : Node) (rpm : Path) (b : Bool) :
    (n.resolved rpm b).kind = if b then .preBuilt else n.kind := by
  cases b <;> rfl

@[simp] theorem resolved_id (n : Node) (rpm : Path) (b : Bool) : (n.resolved rpm b).id = n.id := by
  cases b <;> rfl

@[simp] theorem resolved_requirement (n : Node) (rpm : Path) (b : Bool) :
    (n.resolved rpm b).requirement = n.requirement := by
  cases b <;> rfl

theorem resolved_state_ne_unresolved (n : Node) (rpm : Path) (b : Bool) :
    (n.resolved rpm b).state ≠ .unresolved := by
  rw [resolved_state]
  cases b <;> decide

/-! ### Looking up providers -/

/-- What an answer to a lookup comes down to: the packages, each once, or an error. -/
def found (r : Requirement) (answer : Except Error (List String)) : Except Error (List String) :=
  match answer with
  | .ok packages => (someProvider r packages).map List.eraseDups
  | .error e => .error (e.asKind .providerLookup)

/-- Whether an answer names no package. -/
def namesNothing : Except Error (List String) → Bool
  | .ok (_ :: _) => false
  | _ => true

theorem asKind_kind (k : ErrorKind) (e : Error) : (e.asKind k).kind = k := by
  rw [Error.asKind]
  by_cases h : e.kind = k
  · rw [if_pos h, h]
  · rw [if_neg h]

theorem found_of_namesNothing {r : Requirement} {answer : Except Error (List String)}
    (h : namesNothing answer = true) : ∃ e, found r answer = .error e ∧ e.kind = .providerLookup := by
  match answer with
  | .ok [] => exact ⟨_, rfl, rfl⟩
  | .ok (_ :: _) => exact absurd h (by simp [namesNothing])
  | .error e => exact ⟨_, rfl, asKind_kind _ e⟩

theorem found_of_not_namesNothing {r : Requirement} {answer : Except Error (List String)}
    (h : namesNothing answer = false) : ∃ packages, found r answer = .ok packages := by
  match answer with
  | .ok [] => exact absurd h (by simp [namesNothing])
  | .ok (p :: ps) => exact ⟨(p :: ps).eraseDups, rfl⟩
  | .error e => exact absurd h (by simp [namesNothing])

/-- The message that announces a lookup. -/
def lookupMessage (n : Node) : String :=
  s!"Searching for a package which supplies: {n.requirement.name}"

/-- The session in which a lookup is made. -/
def announced (n : Node) (s : Session τ) : Session τ :=
  (Session.log (ε := Error) .debug .node (lookupMessage n) s).2

theorem findProviders_fst (ctx : Context τ) (n : Node) (s : Session τ) :
    (findProviders ctx n s).1
      = found n.requirement (ctx.cloner.whatProvides n.requirement (announced n s)).1 := by
  show (andThen _ (Step.mapError _ _ (announced n s))).1 = _
  rw [mapError_apply, onError_apply, bind_apply]
  rcases ctx.cloner.whatProvides n.requirement (announced n s) with ⟨e | packages, s'⟩
  · rfl
  · rw [andThen_ok, ofExcept_apply]
    cases packages <;> rfl

theorem findProviders_of_ok {ctx : Context τ} {n : Node} {s s₁ : Session τ} {p : String}
    {ps : List String}
    (h : ctx.cloner.whatProvides n.requirement (announced n s) = (.ok (p :: ps), s₁)) :
    findProviders ctx n s = (.ok (p :: ps).eraseDups, s₁) := by
  refine bind_eq_ok.mpr ⟨(), announced n s, rfl, bind_eq_ok.mpr ⟨p :: ps, s₁, ?_, rfl⟩⟩
  rw [mapError_apply, onError_apply, bind_apply, h]
  rfl

/-! ### Errors by stage -/

theorem fails_fetch (ctx : Context τ) (package : String) :
    Fails (fun e => e.kind = .io ∨ e.kind = .fetch) (fetch ctx package) := by
  have hclone : Fails (fun e => e.kind = .io ∨ e.kind = .fetch)
      ((ctx.cloner.clonePackage ctx.cloneDeps package).mapError (fetchError package)) := by
    refine Fails.mapError (P := fun _ => True) ⟨fun _ _ _ => trivial⟩ fun e _ => ?_
    rw [fetchError]
    by_cases h : e.kind = .io
    · rw [if_pos h]
      exact .inl h
    · rw [if_neg h]
      exact .inr rfl
  exact .bind hclone.within fun _ => .bind (.of_ok fun _ => ⟨_, rfl⟩) fun _ =>
    .of_ok fun _ => ⟨_, rfl⟩

theorem fails_fetchMissing (ctx : Context τ) (packages : List String) :
    Fails (fun e => e.kind = .io ∨ e.kind = .fetch) (fetchMissing ctx packages) := by
  induction packages with
  | nil => exact .pure _
  | cons package rest ih =>
    refine .bind (.of_ok fun _ => ⟨_, rfl⟩) fun fetched => ?_
    cases fetched with
    | true => exact ih
    | false => exact .bind (fails_fetch ctx package) fun _ => ih

theorem fails_choose (ctx : Context τ) (r : Requirement) (all : List Candidate) :
    Fails (fun e => e.kind = .competition) (choose ctx r all) := by
  have hamong (l : List Candidate) :
      Fails (fun e => e.kind = .competition) (chooseAmong ctx r l) := by
    refine .bind (Selection.fails_choose ..) fun chosen => ?_
    cases l.find? (·.rpm.sameAs chosen) with
    | none => exact .fail rfl
    | some c => exact .pure _
  match all with
  | [] => exact hamong []
  | [c] => exact .pure c
  | c :: d :: rest => exact hamong (c :: d :: rest)

/-! ### The stages of a node -/

/-- The session in which the providers of a node are looked up. -/
def begun (n : Node) (s : Session τ) : Session τ :=
  (Session.log (ε := Error) .debug .node s!"Adding node {n.friendlyName} to the cache" s).2

/-- Resolving an unresolved node, stage by stage. -/
theorem resolveNode_of_unresolved (ctx : Context τ) {n : Node} (hn : n.state = .unresolved)
    (p : Progress τ) :
    resolveNode ctx n p = andThen (resolveFrom ctx n)
      ((findProviders ctx n (begun n p.session)).1,
        ⟨(findProviders ctx n (begun n p.session)).2, p.cache⟩) := by
  rw [resolveNode_eq ctx hn]
  rfl

/-- A candidate is settled on whatever has been got: the node has its RPM then. -/
theorem settle_fst (ctx : Context τ) (n : Node) (c : Candidate) (p : Progress τ) :
    (settle ctx n c p).1 = .ok (n.resolved c.rpm
      (ctx.manifest.isPrebuiltToolchain c.rpm (p.cache.isPrebuilt c.package))) := by
  unfold settle
  rw [bind_apply, asks_apply, andThen_ok]
  cases ctx.manifest.isPrebuiltToolchain c.rpm (p.cache.isPrebuilt c.package) <;> rfl

theorem settle_cache (ctx : Context τ) (n : Node) (c : Candidate) (p : Progress τ) :
    (settle ctx n c p).2.cache = p.cache := by
  unfold settle
  rw [bind_apply, asks_apply, andThen_ok]
  cases ctx.manifest.isPrebuiltToolchain c.rpm (p.cache.isPrebuilt c.package) <;> rfl

/-- A node comes out with an RPM, and it wanted one. -/
theorem resolveNode_eq_ok {ctx : Context τ} {n n' : Node} {p p' : Progress τ}
    (h : resolveNode ctx n p = (.ok n', p')) :
    n.state = .unresolved ∧ ∃ rpm b, n' = n.resolved rpm b := by
  by_cases hn : n.state = .unresolved
  · rw [resolveNode_of_unresolved ctx hn] at h
    rcases hf : (findProviders ctx n (begun n p.session)).1 with e | providers
    · rw [hf, andThen_error] at h
      simp at h
    · rw [hf, andThen_ok] at h
      obtain ⟨_, p₁, _, h⟩ := bind_eq_ok.mp h
      obtain ⟨c, p₂, _, h⟩ := bind_eq_ok.mp h
      have hs := settle_fst ctx n c p₂
      rw [h] at hs
      exact ⟨hn, _, _, Except.ok.inj hs⟩
  · rw [resolveNode_of_resolved ctx hn] at h
    simp at h

/-! ### What is asked for a node -/

theorem findProviders_record (ctx : Context τ) (n : Node) (s : Session (Recorded τ)) :
    (findProviders ctx.recorded n s).2.record = s.record ++
      [.lookup n.requirement (ctx.recorded.cloner.whatProvides n.requirement (announced n s)).1] := by
  -- to log a failure and to drop repeated packages asks nothing
  have hview := view_onError Session.record (f := logLookupFailure n) (fun _ _ => rfl)
    (ctx.recorded.cloner.whatProvides n.requirement >>= fun packages =>
      ofExcept (someProvider n.requirement packages)) (announced n s)
  rw [snd_bind_ofExcept] at hview
  have hstep : (findProviders ctx.recorded n s).2
      = (onError (ctx.recorded.cloner.whatProvides n.requirement >>= fun packages =>
        ofExcept (someProvider n.requirement packages)) (logLookupFailure n) (announced n s)).2 :=
    snd_bind_pure _ List.eraseDups (announced n s)
  rw [hstep, hview]
  exact record_noting ..

theorem extends_fetchMissing (ctx : Context τ) (packages : List String) :
    Extends Progress.record
      (fun e => ∃ package ∈ packages, ∃ answer, e = .clone ctx.cloneDeps package answer)
      (fetchMissing ctx.recorded packages) := by
  induction packages with
  | nil => exact .pure _
  | cons package rest ih =>
    have hrest : Extends Progress.record
        (fun e => ∃ p ∈ package :: rest, ∃ answer, e = .clone ctx.cloneDeps p answer)
        (fetchMissing ctx.recorded rest) := by
      refine ih.mono fun e he => ?_
      obtain ⟨p, hp, answer, h⟩ := he
      exact ⟨p, List.mem_cons_of_mem package hp, answer, h⟩
    have hclone : Extends Session.record
        (fun e => ∃ p ∈ package :: rest, ∃ answer, e = .clone ctx.cloneDeps p answer)
        (ctx.recorded.cloner.clonePackage ctx.cloneDeps package) := by
      refine ⟨fun s => ⟨_, record_noting .., fun e he => ?_⟩⟩
      exact ⟨package, List.mem_cons_self, _, List.mem_singleton.mp he⟩
    have hfetch : Extends Progress.record
        (fun e => ∃ p ∈ package :: rest, ∃ answer, e = .clone ctx.cloneDeps p answer)
        (Progress.onSession ((ctx.recorded.cloner.clonePackage ctx.cloneDeps package).mapError
          (fetchError package))) :=
      hclone.mapError.within (fun _ => rfl) fun _ _ => rfl
    refine .bind (.of_eq fun _ => rfl) fun fetched => ?_
    cases fetched with
    | true => exact hrest
    | false =>
      refine .bind (.bind hfetch fun _ => .bind ?_ fun _ => ?_) fun _ => hrest
      · exact .of_eq fun _ => rfl
      · exact .of_eq fun _ => rfl

theorem extends_choose (ctx : Context τ) (r : Requirement) (all : List Candidate) :
    Extends Session.record (fun e => ∃ answer, e = .judge (all.map Candidate.rpm) answer)
      (choose ctx.recorded r all) := by
  have hamong (l : List Candidate) :
      Extends Session.record (fun e => ∃ answer, e = .judge (l.map Candidate.rpm) answer)
        (chooseAmong ctx.recorded r l) := by
    refine .bind ?_ fun chosen => ?_
    · rw [Selection.choose_eq]
      refine .bind (.of_eq fun _ => rfl) fun _ => .bind (.mapError (.onError ?_ fun _ => ?_))
        fun _ => .bind (.of_eq fun _ => rfl) fun _ => .of_eq fun _ => rfl
      · exact ⟨fun s => ⟨_, record_noting .., fun e he => ⟨_, List.mem_singleton.mp he⟩⟩⟩
      · exact .of_eq fun _ => rfl
    · cases l.find? (·.rpm.sameAs chosen) with
      | none => exact .fail _
      | some c => exact .pure _
  match all with
  | [] => exact hamong []
  | [c] => exact .pure c
  | c :: d :: rest => exact hamong (c :: d :: rest)

theorem fails_resolveFrom (ctx : Context τ) (n : Node) (providers : List String) :
    Fails (fun e => e.kind ≠ .providerLookup) (resolveFrom ctx n providers) := by
  refine .bind ((fails_fetchMissing ctx providers).mono fun e he => ?_) fun _ =>
    .bind (((fails_choose ctx _ _).mono fun e he => ?_).within) fun c =>
      .of_ok fun p => ⟨_, settle_fst ctx n c p⟩
  · rcases he with h | h <;> rw [h] <;> decide
  · rw [he]
    decide

theorem extends_resolveFrom (ctx : Context τ) (n : Node) (providers : List String) :
    Extends Progress.record (fun e => e.lookup? = none) (resolveFrom ctx.recorded n providers) := by
  refine .bind ((extends_fetchMissing ctx providers).mono fun e he => ?_) fun _ =>
    .bind (((extends_choose ctx _ _).mono fun e he => ?_).within (fun _ => rfl) fun _ _ => rfl)
      fun c => .of_eq fun p => ?_
  · obtain ⟨_, _, _, rfl⟩ := he
    rfl
  · obtain ⟨_, rfl⟩ := he
    rfl
  · unfold settle
    rw [bind_apply, asks_apply, andThen_ok]
    cases ctx.recorded.manifest.isPrebuiltToolchain c.rpm (p.cache.isPrebuilt c.package) <;> rfl

/-- For a node one requirement is looked up, its own. The answer names nothing exactly if the node
fails in the lookup. -/
theorem resolveNode_recorded (ctx : Context τ) {n : Node} (hn : n.state = .unresolved)
    (p : Progress (Recorded τ)) :
    ∃ answer more,
      (resolveNode ctx.recorded n p).2.record = p.record ++ .lookup n.requirement answer :: more
        ∧ lookups more = []
        ∧ ((∃ e, (resolveNode ctx.recorded n p).1 = .error e ∧ e.kind = .providerLookup)
          ↔ namesNothing answer = true) := by
  obtain ⟨answer, ha⟩ : ∃ answer, answer = (ctx.recorded.cloner.whatProvides n.requirement
    (announced n (begun n p.session))).1 := ⟨_, rfl⟩
  -- the answer alone decides whether the lookup fails, and no later stage fails in that way
  have hfst := findProviders_fst ctx.recorded n (begun n p.session)
  have hrec := findProviders_record ctx n (begun n p.session)
  rw [← ha] at hfst hrec
  rw [resolveNode_of_unresolved _ hn, hfst]
  refine ⟨answer, ?_⟩
  cases hq : namesNothing answer with
  | true =>
    obtain ⟨e, he, hk⟩ := found_of_namesNothing (r := n.requirement) hq
    rw [he, andThen_error]
    exact ⟨[], hrec, rfl, ⟨fun _ => rfl, fun _ => ⟨e, rfl, hk⟩⟩⟩
  | false =>
    obtain ⟨providers, hp⟩ := found_of_not_namesNothing (r := n.requirement) hq
    rw [hp, andThen_ok]
    obtain ⟨more, hmore, hnone⟩ := (extends_resolveFrom ctx n providers).exists_more
      ⟨(findProviders ctx.recorded n (begun n p.session)).2, p.cache⟩
    refine ⟨more, ?_, lookups_eq_nil hnone, ⟨?_, fun h => absurd h (by simp)⟩⟩
    · rw [hmore]
      show (findProviders ctx.recorded n (begun n p.session)).2.record ++ more = _
      rw [hrec, List.append_assoc]
      rfl
    · rintro ⟨e, he, hk⟩
      exact absurd hk ((fails_resolveFrom ctx.recorded n providers).of_error _ e he)

end RpmProvision.Resolution
