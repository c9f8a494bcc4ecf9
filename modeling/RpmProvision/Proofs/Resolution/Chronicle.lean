/-
What the log tells about the nodes of a run.

A run deals with its nodes one after another, and so its log falls into one part for each of them. A
node that failed for good is reported at the end of its part: a warning, and behind it the nodes that
need it, as they are at that moment. No other part has such a report, and the part of a node that has
to wait is for debugging only.

* **`ShownAs`**, **`failureEvent`**, **`dependentsEvent`** — nodes in the log, and the texts about a
  node that failed for good;
* **`Tells`** — what is logged while a node is dealt with, by its outcome;
* **`Chronicle`** — the parts of the log, along the states that a run goes through;
* **`tells_of_resolveAt`**, **`chronicle_of_resolveNodes`** — one node, and all of them;
* **`Chronicle.reports`** — the reports are those of the failures, in their order;
* **`chronicle_of_run`** — a whole run.
-/
import RpmProvision.Proofs.Graph.Edits
import RpmProvision.Proofs.Resolution.Events

namespace RpmProvision.Resolution

open Step

variable {τ : Type} {ctx : Context τ} {foreign : Event → Prop}

/-- The log of a run. -/
def RunState.events (s : RunState τ) : List Event := s.progress.events

/-! ### Texts -/

/-- The words for what nodes stand for. -/
def kindWords : List (NodeKind × String) :=
  [(.build, "BUILD"), (.run, "RUN"), (.goal, "GOAL"), (.remote, "REMOTE"), (.pureMeta, "PUREMETA"),
    (.preBuilt, "PREBUILT")]

/-- The words for how far nodes have come. -/
def stateWords : List (NodeState × String) :=
  [(.unresolved, "Unresolved"), (.cached, "Cached"), (.upToDate, "UpToDate"), (.build, "Build"),
    (.bookkeeping, "Meta")]

/-- What stands behind the name of a requirement. -/
def limitText (r : Requirement) : String :=
  match r.condition, r.version with
  | some condition, some version => " " ++ condition ++ " " ++ version
  | none, some version => " = " ++ version
  | _, none => ""

/-- The text shows the node: its requirement, its kind, and in angle brackets its state. -/
def ShownAs (n : Node) (text : String) : Prop :=
  ∃ kind state, (n.kind, kind) ∈ kindWords ∧ (n.state, state) ∈ stateWords
    ∧ text = n.requirement.name ++ limitText n.requirement ++ "-" ++ kind ++ "<" ++ state ++ ">"

theorem toText_requirement (r : Requirement) : r.toText = r.name ++ limitText r := by
  rw [Requirement.toText, limitText]
  rcases r.condition with _ | condition
  · rcases r.version with _ | version
    · exact String.append_empty.symm
    · exact String.append_assoc
  · rcases r.version with _ | version
    · exact String.append_empty.symm
    · simp only [String.append_assoc]

theorem shownAs_toText (n : Node) : ShownAs n n.toText := by
  have hkind : (n.kind, n.kind.toText) ∈ kindWords := by cases n.kind <;> decide
  have hstate : (n.state, n.state.toText) ∈ stateWords := by cases n.state <;> decide
  refine ⟨_, _, hkind, hstate, ?_⟩
  rw [Node.toText, toText_requirement]

/-- The event that reports a node that failed for good. -/
def failureEvent (n : Node) (reason : String) : Event :=
  ⟨.warn, .run, "Failed to resolve graph node '" ++ n.toText ++ "':\n" ++ reason⟩

/-- The event that lists the nodes that need a failed node, each on a line of its own. -/
def dependentsEvent (n : Node) (dependents : List Node) : Event :=
  ⟨.debug, .run,
    "Failed to resolve all nodes in the graph while resolving '" ++ n.toText ++ "'\n"
      ++ "Nodes which have this as a dependency:"
      ++ String.join (dependents.map fun d =>
        "\n\t'" ++ d.toText ++ "' depends on '" ++ n.toText ++ "'")⟩

theorem dependentsEvent_eq (n : Node) (dependents : List Node) :
    dependentsEvent n dependents = ⟨.debug, .run, dependentsMessage n dependents⟩ := rfl

example : (dependentsEvent (wantedRun 2 "perl" false)
      [(wantedRun 0 "zlib" false).resolved ⟨"/out/zlib.rpm"⟩ false, wantedRun 1 "curl" true]).message
    = "Failed to resolve all nodes in the graph while resolving 'perl-RUN<Unresolved>'\n"
      ++ "Nodes which have this as a dependency:\n"
      ++ "\t'zlib-RUN<Cached>' depends on 'perl-RUN<Unresolved>'\n"
      ++ "\t'curl-RUN<Unresolved>' depends on 'perl-RUN<Unresolved>'" := by decide +kernel

/-- Whether an event reports a node that failed for good. -/
def isReport (e : Event) : Bool := e.level = .warn ∧ e.source = .run

theorem isReport_of_source {e : Event} (h : e.source ≠ .run) : isReport e = false :=
  decide_eq_false fun hreport => h hreport.2

theorem isReport_of_debug {e : Event} (h : e.level = .debug) : isReport e = false := by
  refine decide_eq_false fun hreport => ?_
  rw [h] at hreport
  cases hreport.1

/-- What is logged while a node is dealt with, by its outcome. `g` is the graph at the end of it. The
two events about a node that failed for good show that node and those that need it with their states
in this graph. -/
def Tells (foreign : Event → Prop) (g : Graph) (told : List Event) : Outcome → Prop
  | .resolved .. => ∀ e ∈ told, e.source ≠ .run ∧ (e.level = .error → foreign e)
  | .softFailure .. => ∀ e ∈ told, e.level = .debug
  | .hardFailure id reason => ∃ before n dependents,
    told = before ++ [failureEvent n reason, dependentsEvent n dependents]
      ∧ (∀ e ∈ before, e.source ≠ .run) ∧ g.node? id = some n ∧ g.Needing id dependents
      ∧ ∀ m ∈ n :: dependents, ShownAs m m.toText

/-- A run goes through some nodes from one state to another. For each node there is its outcome and
what is logged meanwhile. -/
inductive Chronicle (ctx : Context τ) (foreign : Event → Prop) :
    RunState τ → List NodeId → List (Outcome × List Event) → RunState τ → Prop
  | nil (s : RunState τ) : Chronicle ctx foreign s [] [] s
  | cons {s s₁ s₂ : RunState τ} {id : NodeId} {ids : List NodeId} {n : Node} {o : Outcome}
      {told : List Event} {more : List (Outcome × List Event)} (hid : s.graph.node? id = some n)
      (hstep : resolveAt ctx id n s = (.ok o, s₁)) (hevents : s₁.events = s.events ++ told)
      (htells : Tells foreign s₁.graph told o) (hrest : Chronicle ctx foreign s₁ ids more s₂) :
      Chronicle ctx foreign s (id :: ids) ((o, told) :: more) s₂

/-! ### One node -/

theorem events_logFailure {id : NodeId} {n : Node} {s : RunState τ}
    (hid : s.graph.node? id = some n) (reason : String) :
    (logFailure id reason s).2.events
      = s.events ++ [failureEvent n reason, dependentsEvent n (s.graph.dependents id)] := by
  unfold logFailure
  rw [bind_apply, asks_apply, andThen_ok, hid]
  show ((s.progress.session.world.record _).record _).events = _
  rw [World.events_record, World.events_record, List.append_assoc, dependentsEvent_eq]
  rfl

/-- A node that failed has to wait and nothing is logged, or it failed for good and is reported. -/
theorem fail_eq_ok {id : NodeId} {n : Node} {e : Error} {s s' : RunState τ} {o : Outcome}
    (hid : s.graph.node? id = some n) (h : fail id n e s = (.ok o, s')) :
    s'.graph = s.graph ∧
      ((o = .softFailure id e.message ∧ e.kind = .providerLookup ∧ n.implicit
          ∧ s'.events = s.events)
        ∨ o = .hardFailure id e.message ∧ s'.events
          = s.events ++ [failureEvent n e.message, dependentsEvent n (s.graph.dependents id)]) := by
  cases hfatal : e.isFatal with
  | true =>
    rw [fail_of_isFatal hfatal] at h
    cases h
  | false =>
    unfold fail at h
    rw [hfatal, if_neg (by decide)] at h
    by_cases hsoft : e.kind = .providerLookup ∧ n.implicit
    · rw [failureOutcome, if_pos hsoft] at h
      cases h
      exact ⟨rfl, .inl ⟨rfl, hsoft.1, hsoft.2, rfl⟩⟩
    · rw [failureOutcome, if_neg hsoft] at h
      obtain ⟨_, s₁, hlog, hpure⟩ := bind_eq_ok.mp h
      cases hpure
      have hevents := events_logFailure hid e.message
      obtain ⟨w, hw⟩ := logFailure_apply id e.message s
      change logFailure id e.message s = _ at hlog
      rw [hlog] at hevents
      cases hw.symm.trans hlog
      exact ⟨rfl, .inr ⟨rfl, hevents⟩⟩

/-- What is logged while one node is dealt with. -/
theorem tells_of_resolveAt (hquiet : Quiet ctx foreign) {id : NodeId} {n : Node} {o : Outcome}
    {s s' : RunState τ} (hlinked : s.graph.Linked) (hid : s.graph.node? id = some n)
    (hn : n.state = .unresolved) (h : resolveAt ctx id n s = (.ok o, s')) :
    s'.graph.Linked ∧ ∃ told, s'.events = s.events ++ told ∧ Tells foreign s'.graph told o := by
  rcases hr : resolveNode ctx n s.progress with ⟨e | n', p⟩
  · rw [resolveAt_of_error hr] at h
    have hid' : (RunState.mk s.graph p).graph.node? id = some n := hid
    obtain ⟨hgraph, hcase⟩ := fail_eq_ok hid' h
    rw [hgraph]
    refine ⟨hlinked, ?_⟩
    obtain ⟨rfl, hkind, himplicit, hevents⟩ | ⟨rfl, hevents⟩ := hcase
    · obtain ⟨told, htold, hdebug⟩ := debug_of_lookup hquiet hn himplicit hr hkind
      exact ⟨told, hevents.trans htold, hdebug⟩
    · obtain ⟨before, hbefore, hsource⟩ := (extends_resolveNode hquiet n).exists_more s.progress
      rw [hr] at hbefore
      refine ⟨before ++ [failureEvent n e.message, dependentsEvent n (s.graph.dependents id)], ?_,
        before, n, _, rfl, hsource, hid, hlinked.needing_dependents id, fun m _ => shownAs_toText m⟩
      rw [hevents, ← List.append_assoc]
      exact congrArg (· ++ _) hbefore
  · obtain ⟨told, htold, hcalm⟩ := (extendsOk_resolveNode hquiet n).exists_more hr
    cases (resolveAt_of_ok hr id).symm.trans h
    exact ⟨hlinked.setNode id n', told, htold, hcalm⟩

/-! ### A list of nodes -/

/-- Nodes that are resolved one after another make a chronicle of their outcomes. -/
theorem chronicle_of_resolveNodes (hquiet : Quiet ctx foreign) {ids : List NodeId}
    {s s' : RunState τ} {outcomes : List Outcome} (hlinked : s.graph.Linked)
    (hw : Wanting s.graph ids) (h : resolveNodes ctx ids s = (.ok outcomes, s')) :
    ∃ parts, Chronicle ctx foreign s ids parts s' ∧ parts.map Prod.fst = outcomes := by
  induction ids generalizing s outcomes with
  | nil =>
    cases h
    exact ⟨[], .nil _, rfl⟩
  | cons id rest ih =>
    obtain ⟨n, hid, hn⟩ := hw.2 id List.mem_cons_self
    obtain ⟨o, s₁, more, ho, hmore, rfl⟩ := (resolveNodes_cons hid).mp h
    obtain ⟨hlinked₁, told, hevents, htells⟩ := tells_of_resolveAt hquiet hlinked hid hn ho
    obtain ⟨parts, hparts, hfst⟩ := ih hlinked₁ (hw.rest ho) hmore
    refine ⟨(o, told) :: parts, .cons hid ho hevents htells hparts, ?_⟩
    rw [List.map_cons, hfst]

namespace Chronicle

variable {s s' : RunState τ} {ids : List NodeId} {parts : List (Outcome × List Event)}

/-- The parts make up the log. -/
theorem events (h : Chronicle ctx foreign s ids parts s') :
    s'.events = s.events ++ parts.flatMap Prod.snd := by
  induction h with
  | nil s => exact (List.append_nil _).symm
  | cons _ _ hevents _ _ ih =>
    rw [ih, hevents, List.flatMap_cons, List.append_assoc]

/-- Nodes that are not gone through stay. -/
theorem node?_of_not_mem (h : Chronicle ctx foreign s ids parts s') {id : NodeId} (hid : id ∉ ids) :
    s'.graph.node? id = s.graph.node? id := by
  induction h with
  | nil s => rfl
  | cons _ hstep _ _ _ ih =>
    rw [List.mem_cons, not_or] at hid
    rw [ih hid.2, node?_resolveAt_of_ne hstep hid.1]

end Chronicle

/-! ### Reports -/

/-- The event reports the failure, with the node as it is in the graph. -/
def Reports (g : Graph) (o : Outcome) (e : Event) : Prop :=
  ∃ n reason, o = .hardFailure o.node reason ∧ g.node? o.node = some n ∧ e = failureEvent n reason

theorem filter_isReport_eq_nil {told : List Event} (h : ∀ e ∈ told, isReport e = false) :
    told.filter isReport = [] := by
  refine List.filter_eq_nil_iff.mpr fun e he => ?_
  rw [h e he]
  decide

/-- The reports in the part of a node: one if the node failed for good, and else none. A later graph
shows the same node unless that has changed. -/
theorem reports_of_tells {g g' : Graph} {told : List Event} {o : Outcome}
    (h : Tells foreign g told o) (hstays : g'.node? o.node = g.node? o.node) :
    List.Forall₂ (Reports g') ([o].filter Outcome.isHard) (told.filter isReport) := by
  cases o with
  | resolved id rpm state =>
    rw [filter_isReport_eq_nil fun e he => isReport_of_source (h e he).1]
    exact .nil
  | softFailure id reason =>
    rw [filter_isReport_eq_nil fun e he => isReport_of_debug (h e he)]
    exact .nil
  | hardFailure id reason =>
    obtain ⟨before, n, dependents, rfl, hsource, hn, -⟩ := h
    rw [List.filter_append, filter_isReport_eq_nil fun e he => isReport_of_source (hsource e he)]
    exact .cons ⟨n, reason, rfl, hstays.trans hn, rfl⟩ .nil

/-- The reports of a chronicle are those of the nodes that failed for good, in the same order. -/
theorem Chronicle.reports {s s' : RunState τ} {ids : List NodeId}
    {parts : List (Outcome × List Event)} (h : Chronicle ctx foreign s ids parts s')
    (hids : ids.Nodup) :
    List.Forall₂ (Reports s'.graph) ((parts.map Prod.fst).filter Outcome.isHard)
      ((parts.flatMap Prod.snd).filter isReport) := by
  induction h with
  | nil s => exact .nil
  | @cons s s₁ s₂ id ids n o told more _ hstep _ htells hrest ih =>
    obtain ⟨hid, hids⟩ := List.nodup_cons.mp hids
    -- the nodes behind the first one leave it as it is
    have hstays : s₂.graph.node? o.node = s₁.graph.node? o.node := by
      rw [node_of_resolveAt hstep]
      exact hrest.node?_of_not_mem hid
    rw [List.map_cons, List.flatMap_cons, List.filter_append, ← List.singleton_append,
      List.filter_append]
    exact List.rel_append (reports_of_tells htells hstays) (ih hids)

/-! ### A whole run -/

/-- A run before its first node: nothing has been got, and the number of nodes is logged. -/
def opened (s : RunState τ) : RunState τ :=
  (RunState.log .info s!"Resolving {s.graph.unresolvedRunNodes.length} unresolved nodes"
    ⟨s.graph, ⟨s.progress.session, .empty⟩⟩).2

/-- What is logged behind the nodes: information, and an error if no summary could be saved. -/
def IsClosing (e : Event) : Prop :=
  e.level = .info
    ∨ ∃ reason : String, e = ⟨.error, .run, s!"Failed to save cloned repo contents: {reason}"⟩

theorem IsClosing.isReport_eq_false {e : Event} (h : IsClosing e) : isReport e = false := by
  refine decide_eq_false fun hreport => ?_
  rcases h with h | ⟨reason, rfl⟩
  · rw [h] at hreport
    cases hreport.1
  · cases hreport.1

theorem resolveUnresolved_opened {s s' : RunState τ} {report : Report}
    (h : resolveUnresolved ctx s = (.ok report, s')) :
    ∃ s₁ last, resolveNodes ctx s.graph.unresolvedRunNodes (opened s) = (.ok report.outcomes, s₁)
      ∧ s'.graph = s₁.graph ∧ s'.events = s₁.events ++ [last] ∧ last.level = .info := by
  obtain ⟨_, _, hmodify, h⟩ := bind_eq_ok.mp h
  cases hmodify
  obtain ⟨_, _, hasks, h⟩ := bind_eq_ok.mp h
  cases hasks
  obtain ⟨_, _, hlog, h⟩ := bind_eq_ok.mp h
  cases hlog
  obtain ⟨outcomes, s₁, hnodes, h⟩ := bind_eq_ok.mp h
  obtain ⟨_, _, hasks, h⟩ := bind_eq_ok.mp h
  cases hasks
  obtain ⟨_, _, hlog, h⟩ := bind_eq_ok.mp h
  cases hlog
  cases h
  exact ⟨s₁, _, hnodes, rfl, World.events_record .., rfl⟩

theorem extends_finish_events (hquiet : Quiet ctx foreign) (options : RunOptions)
    (report : Report) :
    Extends RunState.events IsClosing (finish ctx options report) := by
  have hsave (path : Path) : Extends Session.events IsClosing (ctx.cloner.saveContents path) := by
    refine .bind (.of_eq hquiet.contents) fun summary => .bind (.of_eq fun _ => rfl) fun _ => ?_
    exact Session.extends_log (Or.inl rfl)
  have hsaveTo : Extends RunState.events IsClosing (saveTo ctx options.outputSummary) := by
    cases options.outputSummary with
    | none => exact .pure _
    | some path =>
      have hlogged : Extends Progress.events IsClosing
          (Progress.onSession ((ctx.cloner.saveContents path).onError fun e =>
            Session.log .error .run s!"Failed to save cloned repo contents: {e.message}")) :=
        ((hsave path).onError fun e => Session.extends_log (Or.inr ⟨e.message, rfl⟩)).within
          (fun _ => rfl) fun _ _ => rfl
      show Extends _ IsClosing (RunState.onProgress _)
      exact hlogged.within (fun _ => rfl) fun _ _ => rfl
  refine .bind hsaveTo fun _ => .of_eq fun s => ?_
  rw [judge_eq]

/-- The log of a run that gets through its nodes, whether or not it fails in the end: a part for each
node in the order of the nodes, and what is logged behind them. All in all it reports the failures for
good, each once and in their order. -/
theorem chronicle_of_run {options : RunOptions} {start : RunState τ} {report : Report}
    (hquiet : Quiet ctx foreign) (hlinked : start.graph.Linked) (hin : options.inputSummary = none)
    (hloop : (resolveUnresolved ctx start).1 = .ok report) :
    ∃ last parts closing told,
      Chronicle ctx foreign (opened start) start.graph.unresolvedRunNodes parts last
        ∧ parts.map Prod.fst = report.outcomes
        ∧ (resolveGraph ctx options start).2.events
          = (opened start).events ++ parts.flatMap Prod.snd ++ closing
        ∧ (∀ e ∈ closing, IsClosing e)
        ∧ (resolveGraph ctx options start).2.events = start.events ++ told
        ∧ List.Forall₂ (Reports (resolveGraph ctx options start).2.graph) report.hardFailures
          (told.filter isReport) := by
  rcases hrun : resolveUnresolved ctx start with ⟨r, s₂⟩
  rw [hrun] at hloop
  obtain rfl : r = .ok report := hloop
  obtain ⟨s₁, summary, hnodes, hgraph, hevents, hlevel⟩ := resolveUnresolved_opened hrun
  have hwanting : Wanting (opened start).graph start.graph.unresolvedRunNodes :=
    wanting_unresolvedRunNodes start.graph
  have hlinked' : (opened start).graph.Linked := hlinked
  obtain ⟨parts, hchronicle, hfst⟩ := chronicle_of_resolveNodes hquiet hlinked' hwanting hnodes
  obtain ⟨saved, hsaved, hclosing⟩ :=
    (extends_finish_events hquiet options report).exists_more s₂
  obtain ⟨hfinal, -⟩ := finish_apply ctx options report s₂
  obtain ⟨first, hfirst, hinfo⟩ : ∃ first, (opened start).events = start.events ++ [first]
      ∧ first.level = .info := ⟨_, World.events_record .., rfl⟩
  have hclosing : ∀ e ∈ summary :: saved, IsClosing e :=
    List.forall_mem_cons.mpr ⟨.inl hlevel, hclosing⟩
  have hlog : (resolveGraph ctx options start).2.events
      = (opened start).events ++ parts.flatMap Prod.snd ++ summary :: saved := by
    rw [resolveGraph_of_resolveUnresolved hin hrun, hsaved, hevents, hchronicle.events,
      List.append_assoc]
    rfl
  refine ⟨s₁, parts, summary :: saved, first :: (parts.flatMap Prod.snd ++ summary :: saved), hchronicle,
    hfst, hlog, hclosing, ?_, ?_⟩
  · rw [hlog, hfirst, List.append_assoc, List.append_assoc]
    rfl
  · have hreports := hchronicle.reports hwanting.1
    have hnone : (first :: (parts.flatMap Prod.snd ++ summary :: saved)).filter isReport
        = (parts.flatMap Prod.snd).filter isReport := by
      have hfirst : IsClosing first := .inl hinfo
      rw [List.filter_cons, hfirst.isReport_eq_false, List.filter_append,
        filter_isReport_eq_nil fun e he => (hclosing e he).isReport_eq_false, List.append_nil]
      rfl
    rw [hnone, resolveGraph_of_resolveUnresolved hin hrun, hfinal, hgraph]
    rw [hfst] at hreports
    exact hreports

/-! ### A run over three nodes -/

/-- Zlib and curl need perl, and something built later may provide curl. -/
def perlNeeded : Graph := Graph.edited
  [.addNode (wantedRun 0 "zlib" false), .addNode (wantedRun 1 "curl" true),
    .addNode (wantedRun 2 "perl" false), .addEdge 1 2, .addEdge 0 2]

/-- The start of a run over the three nodes, on an empty disk. -/
def perlStart : RunState Unit := ⟨perlNeeded, ⟨⟨.start ⟨∅, [], ∅⟩, ()⟩, .empty⟩⟩

/-- Zlib is resolved, curl has to wait, and perl has failed. -/
def perlReport : Report where
  outcomes := [.resolved 0 ⟨"/out/zlib.rpm"⟩ .cached,
    .softFailure 1 "failed to resolve requirement: failed to find any packages providing 'curl'",
    .hardFailure 2 "failed to resolve requirement: failed to find any packages providing 'perl'"]
  restored := false

theorem quiet_zlibOnly : Quiet zlibOnly fun _ => False where
  whatProvides _ _ := rfl
  clonePackage _ _ _ := rfl
  contents _ := rfl
  installable _ := .of_eq fun _ => rfl
  source _ h := h.elim

theorem chronicle_perlReport :
    (resolveUnresolved zlibOnly perlStart).1 = .ok perlReport
      ∧ ∃ last parts closing told,
        Chronicle zlibOnly (fun _ => False) (opened perlStart) [0, 1, 2] parts last
          ∧ parts.map Prod.fst = perlReport.outcomes
          ∧ (resolveGraph zlibOnly ⟨none, none, true⟩ perlStart).2.events
            = (opened perlStart).events ++ parts.flatMap Prod.snd ++ closing
          ∧ (resolveGraph zlibOnly ⟨none, none, true⟩ perlStart).2.events = told
          ∧ List.Forall₂ (Reports (resolveGraph zlibOnly ⟨none, none, true⟩ perlStart).2.graph)
            [.hardFailure 2
              "failed to resolve requirement: failed to find any packages providing 'perl'"]
            (told.filter isReport) := by
  have hloop : (resolveUnresolved zlibOnly perlStart).1 = .ok perlReport := rfl
  obtain ⟨last, parts, closing, told, hchronicle, hfst, hlog, -, htold, hreports⟩ :=
    @chronicle_of_run _ _ _ ⟨none, none, true⟩ _ _ quiet_zlibOnly (Graph.linked_edited _) rfl hloop
  exact ⟨hloop, last, parts, closing, told, hchronicle, hfst, hlog, htold, hreports⟩

end RpmProvision.Resolution
