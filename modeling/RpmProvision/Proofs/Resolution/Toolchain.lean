/-
Toolchain packages that were there before.

Nodes are resolved one after another, each with a cloner and an arbiter of its own, and all they share
is the cache. Whether a package was there before is what the one successful request for it answered,
which may have been made for a node long before, and even for one that failed. A node is up to date if
the answer was yes and a line of the manifest names the file of its RPM.

* **`Shared`** — the cache knows the answers to the requests that succeeded, one for each package;
* **`resolveShared`** — nodes one after another, with what is asked for each;
* **`Classified`** — what becomes of a node that gets the RPM of a package;
* **`graded_resolveShared`** — every node that is resolved is classified by its chosen package.
-/
import RpmProvision.Proofs.Manifest
import RpmProvision.Proofs.Resolution.Turn

namespace RpmProvision.Resolution

variable {τ : Type}

/-! ### What a cache shares -/

/-- The cache knows just the answers to the requests that succeeded, and there is one such request for
each package. -/
structure Shared (l : List Exchange) (c : Cache) : Prop where
  find?_iff : ∀ package prebuilt, c.flags.find? package = some prebuilt ↔
    ∃ deps, .clone deps package (.ok prebuilt) ∈ l
  nodup : (cloned l).Nodup

theorem cloned?_eq_some_iff {e : Exchange} {package : String} :
    e.cloned? = some package ↔ ∃ deps prebuilt, e = .clone deps package (.ok prebuilt) := by
  constructor
  · intro h
    cases e with
    | clone deps package' answer =>
      cases answer with
      | error e => cases h
      | ok prebuilt =>
        cases h
        exact ⟨deps, prebuilt, rfl⟩
    | lookup | convert | contents | restore | judge => cases h
  · rintro ⟨deps, prebuilt, rfl⟩
    rfl

theorem mem_cloned_iff {l : List Exchange} {package : String} :
    package ∈ cloned l ↔ ∃ deps prebuilt, .clone deps package (.ok prebuilt) ∈ l := by
  rw [cloned, List.mem_filterMap]
  constructor
  · rintro ⟨e, he, hcloned⟩
    obtain ⟨deps, prebuilt, rfl⟩ := cloned?_eq_some_iff.mp hcloned
    exact ⟨deps, prebuilt, he⟩
  · rintro ⟨deps, prebuilt, he⟩
    exact ⟨_, he, rfl⟩

namespace Shared

theorem empty : Shared [] .empty where
  find?_iff package prebuilt := by simp [Cache.empty, EmptyCollection.emptyCollection]
  nodup := List.nodup_nil

/-- After a turn for a node the cache still knows all answers. -/
theorem turn {l asked : List Exchange} {c : Cache} (h : Shared l c) {ctx : Context τ} {n : Node}
    {got : List (String × Bool)} {chosen : Except Error String}
    (hturn : Turn ctx c n asked got chosen) : Shared (l ++ asked) (c.recordAll got) := by
  constructor
  · intro package prebuilt
    rw [hturn.find?_recordAll_iff, h.find?_iff]
    simp only [List.mem_append, exists_or, hturn.mem_asked_iff]
    simp
  · rw [cloned_append, hturn.cloned_asked, List.nodup_append]
    refine ⟨h.nodup, hturn.nodup_got, ?_⟩
    -- what is got in the turn was not in the cache before it
    rintro package hl _ hg rfl
    obtain ⟨deps, prebuilt, he⟩ := mem_cloned_iff.mp hl
    obtain ⟨g, hmem, rfl⟩ := List.mem_map.mp hg
    have hnone := hturn.find?_of_mem_got g hmem
    rw [(h.find?_iff g.1 prebuilt).mpr ⟨deps, he⟩] at hnone
    cases hnone

/-- However a node is dealt with, the cache still knows all answers. -/
theorem resolveNode {l : List Exchange} (ctx : Context τ) (n : Node) {p : Progress τ}
    (h : Shared l p.cache) :
    Shared (l ++ asked ctx n p) (Resolution.resolveNode ctx n p).2.cache := by
  by_cases hn : n.state = .unresolved
  · obtain ⟨got, chosen, hturn, -, hcache⟩ := turn_asked ctx hn p
    rw [hcache]
    exact h.turn hturn
  · obtain ⟨hasked, hrun⟩ := asked_of_resolved ctx hn p
    rw [hasked, hrun, List.append_nil]
    exact h

end Shared

/-! ### Nodes one after another -/

/-- A node that is to be resolved, and the context and the session in which that is done. -/
structure Job (τ : Type) where
  ctx : Context τ
  node : Node
  session : Session τ

/-- What the cache knew before a node was dealt with, what was asked for the node, and what came of
it. -/
structure Done where
  known : Cache
  asked : List Exchange
  result : Except Error Node

namespace Job

/-- The context, with the manifest of a text. -/
def context (text : String) (job : Job τ) : Context τ := { job.ctx with manifest := .parse text }

/-- Deal with the node. -/
def run (text : String) (c : Cache) (job : Job τ) : Except Error Node × Progress τ :=
  resolveNode (job.context text) job.node ⟨job.session, c⟩

/-- What comes of dealing with the node. -/
def done (text : String) (c : Cache) (job : Job τ) : Done :=
  ⟨c, asked (job.context text) job.node ⟨job.session, c⟩, (job.run text c).1⟩

end Job

/-- Deal with nodes one after another, with the manifest of a text and one cache. -/
def resolveShared (text : String) : Cache → List (Job τ) → List Done
  | _, [] => []
  | c, job :: rest => job.done text c :: resolveShared text (job.run text c).2.cache rest

/-- In the end some cache knows all answers, so each package was got once. -/
theorem Shared.resolveShared (text : String) {l : List Exchange} {c : Cache} (h : Shared l c)
    (jobs : List (Job τ)) :
    ∃ c', Shared (l ++ (Resolution.resolveShared text c jobs).flatMap Done.asked) c' := by
  induction jobs generalizing l c with
  | nil => exact ⟨c, by simpa [Resolution.resolveShared] using h⟩
  | cons job rest ih =>
    have hnext : Shared (l ++ (job.done text c).asked) (job.run text c).2.cache :=
      Shared.resolveNode (job.context text) job.node h
    obtain ⟨c', hc'⟩ := ih hnext
    rw [List.append_assoc] at hc'
    exact ⟨c', hc'⟩

/-! ### What becomes of a node -/

/-- Of elements that stand for different things, just one stands for a given one. -/
theorem filter_eq_singleton {α β : Type} [DecidableEq β] {f : α → Option β} {l : List α}
    (h : (l.filterMap f).Nodup) {a : α} {b : β} (ha : a ∈ l) (hb : f a = some b) :
    l.filter (fun x => f x = some b) = [a] := by
  obtain ⟨before, after, rfl⟩ := List.append_of_mem ha
  rw [List.filterMap_append, List.filterMap_cons_some hb, List.nodup_append] at h
  obtain ⟨-, hafter, hdisjoint⟩ := h
  have hnone {l' : List α} (hl' : b ∉ l'.filterMap f) :
      l'.filter (fun x => f x = some b) = [] := by
    refine List.filter_eq_nil_iff.mpr fun x hx hfx => hl' ?_
    exact List.mem_filterMap.mpr ⟨x, hx, of_decide_eq_true hfx⟩
  have hbefore : b ∉ before.filterMap f := fun hmem =>
    hdisjoint b hmem b List.mem_cons_self rfl
  rw [List.filter_append, List.filter_cons_of_pos (by simpa using hb), hnone hbefore,
    hnone (List.nodup_cons.mp hafter).1]
  rfl

/-- How a node is classified that gets the RPM of a package: by the answer to the one request for the
package that succeeded, and by the manifest. -/
structure Classified (text : String) (all : List Exchange) (before after : Node)
    (package : String) (rpm : Path) : Prop where
  rpmPath : after.rpmPath = some rpm
  upToDate_iff : ∃ deps prebuilt name,
    all.filter (fun e => e.cloned? = some package) = [.clone deps package (.ok prebuilt)]
      ∧ rpm.components.getLast? = some (.name name)
      ∧ (after.state = .upToDate ∧ after.kind = .preBuilt ↔
        prebuilt = true ∧ ∃ line ∈ Text.splitAtEach '\n' text.toList, Manifest.Names line name)
  otherwise : ¬ (after.state = .upToDate ∧ after.kind = .preBuilt) →
    after.state = .cached ∧ after.kind = before.kind

/-- The RPM of a package has a file name, whatever the package is called. -/
theorem exists_fileName?_rpmPath (package : String) (dir : Path) :
    ∃ name, (rpmPath package dir).fileName? = some name := by
  obtain ⟨front, hfront⟩ := Path.exists_text_join dir ⟨package ++ ".rpm"⟩
  rw [← String.append_assoc] at hfront
  obtain ⟨stem, -, hname⟩ := Path.exists_fileName?_of_rpm hfront
  exact ⟨_, hname⟩

/-- A node that gets the RPM of a package is classified by the answer for this package. -/
theorem classified_resolved (text : String) {all : List Exchange} {deps prebuilt : Bool}
    {package : String}
    (hall : all.filter (fun e => e.cloned? = some package) = [.clone deps package (.ok prebuilt)])
    (before : Node) (dir : Path) :
    Classified text all before (before.resolved (rpmPath package dir)
        ((Manifest.parse text).isPrebuiltToolchain (rpmPath package dir) prebuilt))
      package (rpmPath package dir) := by
  obtain ⟨name, hname⟩ := exists_fileName?_rpmPath package dir
  have hiff : (Manifest.parse text).isPrebuiltToolchain (rpmPath package dir) prebuilt
      ↔ prebuilt = true
        ∧ ∃ line ∈ Text.splitAtEach '\n' text.toList, Manifest.Names line name := by
    rw [Manifest.isPrebuiltToolchain, Bool.and_eq_true, Manifest.lists_parse_of_fileName? hname]
  refine ⟨resolved_rpmPath .., ⟨deps, prebuilt, name, hall, ?_, ?_⟩, ?_⟩
  · exact Path.fileName?_eq_some_iff.mp hname
  · rw [resolved_state, resolved_kind, ← hiff]
    cases (Manifest.parse text).isPrebuiltToolchain (rpmPath package dir) prebuilt <;> simp
  · rw [resolved_state, resolved_kind]
    cases (Manifest.parse text).isPrebuiltToolchain (rpmPath package dir) prebuilt <;> simp

/-- A resolved node, the package that was chosen for it, and how it is classified. -/
def Graded (text : String) (all : List Exchange) (job : Job τ) (d : Done) : Prop :=
  ∀ n, d.result = .ok n → ∃ got package,
    Turn (job.context text) d.known job.node d.asked got (.ok package)
      ∧ Classified text all job.node n package (rpmPath package job.ctx.outDir)

theorem graded_done (text : String) {l all : List Exchange} {c : Cache} {job : Job τ}
    (h : Shared l c) (hall : l ++ (job.done text c).asked ⊆ all) (hnodup : (cloned all).Nodup) :
    Graded text all job (job.done text c) := by
  intro n hn
  obtain ⟨got, package, prebuilt, hturn, hfind, rfl⟩ := turn_of_ok hn
  obtain ⟨deps, hmem⟩ := ((h.turn hturn).find?_iff package prebuilt).mp hfind
  exact ⟨got, package, hturn,
    classified_resolved text (filter_eq_singleton hnodup (hall hmem) rfl) job.node job.ctx.outDir⟩

theorem graded_of_shared (text : String) {l all : List Exchange} {c : Cache} (h : Shared l c)
    {jobs : List (Job τ)} (hall : l ++ (resolveShared text c jobs).flatMap Done.asked ⊆ all)
    (hnodup : (cloned all).Nodup) :
    List.Forall₂ (Graded text all) jobs (resolveShared text c jobs) := by
  induction jobs generalizing l c with
  | nil => exact .nil
  | cons job rest ih =>
    have hnext : Shared (l ++ (job.done text c).asked) (job.run text c).2.cache :=
      Shared.resolveNode (job.context text) job.node h
    rw [resolveShared, List.flatMap_cons, ← List.append_assoc] at hall
    have hfirst : l ++ (job.done text c).asked ⊆ all := fun e he =>
      hall (List.mem_append_left _ he)
    exact .cons (graded_done text h hfirst hnodup) (ih hnext hall)

/-- Whatever nodes are resolved one after another with the manifest of a text and a cache that is
empty at first: one that is resolved is up to date and pre-built if the one successful request for the
chosen package, for whichever node it was made, answered that it was there before, and a line of the
text names the last component of its RPM. Otherwise the node is cached and keeps its kind. -/
theorem graded_resolveShared (text : String) (jobs : List (Job τ)) :
    List.Forall₂ (Graded text ((resolveShared text .empty jobs).flatMap Done.asked)) jobs
      (resolveShared text .empty jobs) := by
  obtain ⟨c, hc⟩ := Shared.empty.resolveShared text jobs
  exact graded_of_shared text .empty (List.Subset.refl _) hc.nodup

end RpmProvision.Resolution
