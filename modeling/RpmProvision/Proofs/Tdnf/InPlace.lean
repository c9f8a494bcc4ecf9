/-
A package whose RPM is in place.

If the RPM at hand of a package is at the path where the RPM of the package should be, nothing is copied,
and nothing is looked for. So a node gets this path, whether it leads to the RPM or not.

* **`clonePackage_of_inPlace`** — a package in place is got without a look at its RPM;
* **`resolveNode_of_inPlace`**, **`resolveUnresolved_of_inPlace`** — a node of a run gets the path;
* **`setUp_slashed`** — what is set up if the output directory has slashes behind its path.
-/
import RpmProvision.Proofs.Disk.Growth
import RpmProvision.Proofs.Disk.Spelling
import RpmProvision.Proofs.Resolution.Invariant
import RpmProvision.Proofs.Resolution.Outcomes
import RpmProvision.Proofs.Tdnf.SetUp
import RpmProvision.Proofs.Tdnf.Sparing

namespace RpmProvision.Tdnf

open Step Resolution

variable {tools : Tools} {env : Environment}

/-! ### One package -/

/-- Nothing has appeared between two looks that are the same. -/
theorem appeared_self (names : SortedSet String) (package : String) :
    appeared names names package = [] := by
  refine List.filter_eq_nil_iff.mpr fun n hn => ?_
  rw [SortedMap.contains_iff_mem_keys.mpr hn]
  simp

/-- A package in place is got without a look at its RPM. -/
theorem clonePackage_of_inPlace {package : String} (hplace : env.InPlace package)
    {s : Session Contents} {names : SortedSet String}
    (hscan : scan env.outDir s.world.disk = .ok names) :
    clonePackage tools env false package s
      = (.ok true, ⟨s.world, s.agent.insert package ⟨env.rpmPath package, true⟩⟩) := by
  obtain ⟨source, hfind, hsame⟩ := hplace
  have hobtain : obtain tools env false package s.world = (.ok true, s.world) := by
    rw [obtain, hfind]
    dsimp only
    rw [bind_apply, copyLocal, if_pos hsame]
    rfl
  have hrecord : record env names package true s
      = (.ok (), ⟨s.world, s.agent.insert package ⟨env.rpmPath package, true⟩⟩) := by
    rw [record, bind_apply, look_apply, hscan, andThen_ok, appeared_self]
    rfl
  rw [clonePackage, bind_apply, look_apply, hscan, andThen_ok, bind_apply,
    Session.onWorld_apply hobtain, andThen_ok, bind_apply, hrecord]
  rfl

/-! ### One node -/

/-- The context of runs that get packages from an environment, into its output directory. -/
def Environment.context (env : Environment) (tools : Tools) (arbiter : Arbiter Contents)
    (manifest : Manifest) (cloneDeps : Bool) : Context Contents :=
  ⟨cloner tools env, arbiter, manifest, env.outDir, cloneDeps⟩

/-- A candidate that was there before and is listed is settled on for good, and two events are logged. -/
theorem settle_of_listed {ctx : Context Contents} {c : Candidate} {p : Progress Contents}
    (hprebuilt : p.cache.isPrebuilt c.package) (hlisted : ctx.manifest.lists c.rpm) (n : Node) :
    ∃ e₁ e₂, settle ctx n c p = (.ok (n.resolved c.rpm true),
      ⟨⟨(p.session.world.record e₁).record e₂, p.session.agent⟩, p.cache⟩) := by
  have htoolchain : ctx.manifest.isPrebuiltToolchain c.rpm (p.cache.isPrebuilt c.package) = true := by
    rw [hprebuilt]
    exact hlisted
  unfold settle
  rw [bind_apply, asks_apply, andThen_ok]
  dsimp only
  rw [htoolchain]
  exact ⟨_, _, rfl⟩

/-- The world has the disk, and its log is not written to a file. -/
structure Silent (d : Disk) (w : World) : Prop where
  disk : w.disk = d
  logFile : w.logFile = none

theorem Silent.record {d : Disk} {w : World} (h : Silent d w) (e : Event) :
    Silent d (w.record e) := by
  rw [World.record_of_logFile_eq_none h.logFile]
  exact ⟨h.disk, h.logFile⟩

/-- One package is found for the requirement, and the disk is left alone. -/
def Yields (tools : Tools) (env : Environment) (r : Requirement) (package : String) : Prop :=
  ∀ d w, Silent d w → ∃ w', whatProvides tools env r w = (.ok [package], w') ∧ Silent d w'

section Run

variable {arbiter : Arbiter Contents} {manifest : Manifest} {s : Session Contents} {d : Disk}
  {package : String} {names : SortedSet String} (hplace : env.InPlace package)
  (hscan : scan env.outDir d = .ok names) (hlisted : manifest.lists (env.rpmPath package))
  (hsilent : Silent d s.world)

include hplace hscan hlisted hsilent

/-- A node whose one package is in place and listed is up to date. -/
theorem resolveNode_of_inPlace {n : Node} (hn : n.state = .unresolved)
    (hyields : Yields tools env n.requirement package) :
    ∃ w, resolveNode (env.context tools arbiter manifest false) n ⟨s, .empty⟩
        = (.ok (n.resolved (env.rpmPath package) true),
          ⟨⟨w, s.agent.insert package ⟨env.rpmPath package, true⟩⟩, .record .empty package true⟩)
      ∧ Silent d w := by
  let adding : Event := ⟨.debug, .node, s!"Adding node {n.friendlyName} to the cache"⟩
  obtain ⟨w, hlookup, hw⟩ := hyields d _ ((hsilent.record adding).record
    ⟨.debug, .node, lookupMessage n⟩)
  have hfound : findProviders (env.context tools arbiter manifest false) n
      ⟨s.world.record adding, s.agent⟩ = (.ok [package], ⟨w, s.agent⟩) :=
    (findProviders_of_ok (Session.onWorld_apply hlookup)).trans rfl
  rw [← hw.disk] at hscan
  obtain ⟨fetched, hfetch⟩ := @fetch_of_ok _ (env.context tools arbiter manifest false) package
    ⟨⟨w, s.agent⟩, .empty⟩ true _ (clonePackage_of_inPlace hplace hscan)
  have hmissing : fetchMissing (env.context tools arbiter manifest false) [package]
      ⟨⟨w, s.agent⟩, .empty⟩
      = (.ok (), ⟨⟨w.record fetched, s.agent.insert package ⟨env.rpmPath package, true⟩⟩,
          .record .empty package true⟩) :=
    bind_eq_ok.mpr ⟨false, _, rfl, bind_eq_ok.mpr ⟨(), _, hfetch, rfl⟩⟩
  have hprebuilt : (Cache.record .empty package true).isPrebuilt package = true := by
    rw [Cache.isPrebuilt_record, if_pos rfl]
  obtain ⟨e₁, e₂, hsettle⟩ := @settle_of_listed (env.context tools arbiter manifest false)
    ⟨package, env.rpmPath package⟩ ⟨⟨w.record fetched, _⟩, _⟩ hprebuilt hlisted n
  refine ⟨((w.record fetched).record e₁).record e₂, ?_, ((hw.record fetched).record e₁).record e₂⟩
  rw [resolveNode_eq _ hn]
  refine bind_eq_ok.mpr ⟨(), ⟨⟨s.world.record adding, s.agent⟩, .empty⟩, rfl, ?_⟩
  refine bind_eq_ok.mpr ⟨[package], ⟨⟨w, s.agent⟩, .empty⟩, ?_, ?_⟩
  · rw [Progress.onSession, within_apply, hfound]
  · exact bind_eq_ok.mpr ⟨(), _, hmissing, bind_eq_ok.mpr ⟨_, _, rfl, hsettle⟩⟩

/-- A run over one such node reports it as up to date, and changes nothing on the disk. -/
theorem resolveUnresolved_of_inPlace {g : Graph} {id : NodeId} {n : Node}
    (hids : g.unresolvedRunNodes = [id]) (hid : g.node? id = some n) (hn : n.state = .unresolved)
    (hyields : Yields tools env n.requirement package) :
    ∃ w, resolveUnresolved (env.context tools arbiter manifest false) ⟨g, s, .empty⟩
        = (.ok ⟨[.resolved id (env.rpmPath package) .upToDate], false⟩,
          ⟨g.setNode id (n.resolved (env.rpmPath package) true),
            ⟨⟨w, s.agent.insert package ⟨env.rpmPath package, true⟩⟩, .record .empty package true⟩⟩)
      ∧ Silent d w := by
  let opening : Event := ⟨.info, .run, s!"Resolving {g.unresolvedRunNodes.length} unresolved nodes"⟩
  obtain ⟨w, hnode, hw⟩ := @resolveNode_of_inPlace tools env arbiter manifest
    ⟨s.world.record opening, s.agent⟩ d package names hplace hscan hlisted (hsilent.record opening) n
    hn hyields
  have hnodes : resolveNodes (env.context tools arbiter manifest false) [id]
      ⟨g, ⟨⟨s.world.record opening, s.agent⟩, .empty⟩⟩ = (.ok [_], _) :=
    (resolveNodes_cons hid).mpr ⟨_, _, [], resolveAt_of_ok hnode id, rfl, rfl⟩
  have hloop : ∃ e, resolveUnresolved (env.context tools arbiter manifest false) ⟨g, s, .empty⟩
      = (.ok ⟨[.resolved id (env.rpmPath package) .upToDate], false⟩,
        ⟨g.setNode id (n.resolved (env.rpmPath package) true),
          ⟨⟨w.record e, s.agent.insert package ⟨env.rpmPath package, true⟩⟩,
            .record .empty package true⟩⟩) := by
    rw [← hids] at hnodes
    exact ⟨_, bind_eq_ok.mpr ⟨(), _, rfl, bind_eq_ok.mpr ⟨_, _, rfl, bind_eq_ok.mpr ⟨(), _, rfl,
      bind_eq_ok.mpr ⟨_, _, hnodes, bind_eq_ok.mpr ⟨_, _, rfl, bind_eq_ok.mpr ⟨(), _, rfl, rfl⟩⟩⟩⟩⟩⟩⟩
  obtain ⟨e, hloop⟩ := hloop
  exact ⟨w.record e, hloop, hw.record e⟩

end Run

/-! ### The output directory under another path -/

theorem setUpIn_outDir (config : ClonerConfig) (out scratch : Path) :
    setUpIn { config with outDir := out } scratch = (do
      let env ← setUpIn config scratch
      pure { env with outDir := out }) := by
  unfold setUpIn
  simp only [bind_assoc, pure_bind]
  rfl

/-- What is set up for another path differs in this path alone, if nothing has to be made for either. -/
theorem setUp_outDir {config : ClonerConfig} {out : Path} {w w' : World}
    (hold : Disk.makeDirWithParents config.outDir w.disk = (.ok (), w.disk))
    (hother : Disk.makeDirWithParents out w.disk = (.ok (), w.disk))
    (h : setUp config w = (.ok env, w')) :
    setUp { config with outDir := out } w = (.ok { env with outDir := out }, w') := by
  have hmake {p : Path} (hp : Disk.makeDirWithParents p w.disk = (.ok (), w.disk)) :
      World.onDisk (Disk.makeDirWithParents p) w = (.ok (), w) := by
    rw [World.onDisk, within_apply, hp]
  obtain ⟨_, w₁, hvalid, hchecked⟩ := bind_eq_ok.mp h
  obtain ⟨_, w₂, hmade, hready⟩ := bind_eq_ok.mp hchecked
  obtain ⟨scratch, w₃, hscratch, hin⟩ := bind_eq_ok.mp hready
  obtain ⟨hlook, hw₁⟩ := Prod.mk.inj hvalid
  obtain rfl : w = w₁ := hw₁
  obtain rfl : w = w₂ := by
    rw [mapError_apply, hmake hold] at hmade
    exact (Prod.mk.inj hmade).2
  refine bind_eq_ok.mpr ⟨(), w, Prod.ext hlook rfl, bind_eq_ok.mpr ⟨(), w, ?_, ?_⟩⟩
  · rw [mapError_apply, hmake hother]
    rfl
  · refine bind_eq_ok.mpr ⟨scratch, w₃, hscratch, ?_⟩
    rw [onError_apply] at hin ⊢
    rcases hset : setUpIn config scratch w₃ with ⟨e | env', w''⟩
    · rw [hset] at hin
      cases hin
    · rw [hset] at hin
      cases hin
      rw [setUpIn_outDir, bind_apply, hset]
      rfl

/-- Nothing has to be made for a directory that is there, also if slashes are behind its path. -/
theorem makeDirWithParents_slashed {d : Disk} {p : Path} {l : Location}
    (hthere : d.resolveNames .entry p p.names = .ok (l, some .directory))
    (hfind : d.find p = .ok (l, .directory)) {k : Nat}
    (hsize : p.text.utf8ByteSize + k < Disk.maxPathSize) :
    Disk.makeDirWithParents (p.slashed k) d = (.ok (), d) := by
  have hfault := Disk.pathFault?_of_find hfind
  have hempty := Disk.text_ne_empty_of_pathFault? hfault
  have hslashed : d.resolveNames .entry (p.slashed k) (p.slashed k).names
      = .ok (l, some .directory) := by
    rw [Disk.resolveNames, hfault] at hthere
    rw [Path.names_slashed, Disk.resolveNames, Disk.pathFault?_slashed hfault hsize, Disk.startOf,
      Path.isAbsolute_slashed hempty]
    exact hthere
  exact Disk.makeDirWithParents_of_isDirectory (Path.text_slashed_ne_empty hempty k) hslashed
    (Disk.isDirectory_iff.mpr ⟨l, Disk.find_slashed hfind hsize⟩)

/-- What is set up for a directory that is there is the same if slashes are behind its path, as long as
the path is not too long. -/
theorem setUp_slashed {config : ClonerConfig} {w w' : World} {l : Location}
    (hthere : w.disk.resolveNames .entry config.outDir config.outDir.names
      = .ok (l, some .directory))
    (hfind : w.disk.find config.outDir = .ok (l, .directory)) {k : Nat}
    (hsize : config.outDir.text.utf8ByteSize + k < Disk.maxPathSize)
    (h : setUp config w = (.ok env, w')) :
    setUp { config with outDir := config.outDir.slashed k } w
      = (.ok { env with outDir := config.outDir.slashed k }, w') :=
  have hold : Disk.makeDirWithParents (config.outDir.slashed 0) w.disk = (.ok (), w.disk) :=
    makeDirWithParents_slashed hthere hfind (Nat.lt_of_le_of_lt (Nat.le_add_right ..) hsize)
  setUp_outDir hold (makeDirWithParents_slashed hthere hfind hsize) h

end RpmProvision.Tdnf
