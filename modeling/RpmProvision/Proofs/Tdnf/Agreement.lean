/-
What a run reports and what the cloner has got.

A run remembers which packages it has got and whether they were at hand, and the cloner records the
same and where the RPMs are. Packages are also recorded by the cloner when they are brought along, or
were so before the run. Still the two agree on every package that the run has got.

The RPM of such a package is a file, as long as none is taken away. Only an RPM that is at hand under
the very path that it should have is neither copied nor looked for. Then the index has met it on a walk,
and it may be that the path leads to no file all the same.

* **`Agrees`** — the cloner knows the packages of the run, and they have their RPMs or are in place;
* **`kept_accordant`** — every step of a run keeps this;
* **`OutOfReach`**, **`outOfReach_of_inPlace`** — why the RPM of a package in place may be no file;
* **`agrees_resolveGraph`** — the RPMs that a run reports are recorded by the cloner and are there;
* **`not_isFile_of_upToDate`** — runs after which the RPM of a node cannot be reached.
-/
import RpmProvision.Proofs.Resolution.Requests
import RpmProvision.Proofs.Tdnf.Delivery
import RpmProvision.Proofs.Tdnf.Index
import RpmProvision.Proofs.Tdnf.InPlace

namespace RpmProvision.Tdnf

open Step Resolution

/-- The cloner knows every package that the run has got, and says of it what the run says. The package
has its RPM or is in place, and if it was there before, it is at hand. -/
structure Agrees (env : Environment) (p : Progress Contents) : Prop where
  entry : ∀ package, p.cache.isFetched package →
    p.session.agent.find? package = some ⟨env.rpmPath package, p.cache.isPrebuilt package⟩
  hand : ∀ package, p.cache.isFetched package → p.cache.isPrebuilt package →
    env.localRpms.contains package
  placed : ∀ package, p.cache.isFetched package →
    p.session.world.disk.isFile (env.rpmPath package) ∨ env.InPlace package

variable {tools : Tools} {env : Environment}

theorem agrees_empty (s : Session Contents) : Agrees env ⟨s, .empty⟩ where
  entry _ h := by cases h
  hand _ h := by cases h
  placed _ h := by cases h

/-- A package that is got is recorded on both sides. -/
theorem Agrees.record {p : Progress Contents} (h : Agrees env p) {s : Session Contents}
    {package : String} {prebuilt : Bool}
    (hself : s.agent.find? package = some ⟨env.rpmPath package, prebuilt⟩)
    (hothers : ∀ n e, n ≠ package → p.session.agent.find? n = some e → s.agent.find? n = some e)
    (hhand : prebuilt → env.localRpms.contains package)
    (hplaced : s.world.disk.isFile (env.rpmPath package) ∨ env.InPlace package)
    (hkeeps : KeepsRpms env p.session.world.disk s.world.disk) :
    Agrees env ⟨s, p.cache.record package prebuilt⟩ := by
  have hother {n : String} (hn : n ≠ package)
      (hgot : (p.cache.record package prebuilt).isFetched n) : p.cache.isFetched n := by
    rw [Cache.isFetched_record] at hgot
    simpa [hn] using hgot
  constructor
  · intro n hgot
    show s.agent.find? n = some ⟨env.rpmPath n, (p.cache.record package prebuilt).isPrebuilt n⟩
    rw [Cache.isPrebuilt_record]
    by_cases hn : n = package
    · rw [hn, if_pos rfl, hself]
    · rw [if_neg hn]
      exact hothers n _ hn (h.entry n (hother hn hgot))
  · intro n hgot hpre
    change (p.cache.record package prebuilt).isPrebuilt n at hpre
    rw [Cache.isPrebuilt_record] at hpre
    by_cases hn : n = package
    · rw [if_pos hn] at hpre
      rw [hn]
      exact hhand hpre
    · rw [if_neg hn] at hpre
      exact h.hand n (hother hn hgot) hpre
  · intro n hgot
    by_cases hn : n = package
    · rw [hn]
      exact hplaced
    · exact (h.placed n (hother hn hgot)).imp_left (hkeeps n)

/-- The progress comes after a world. If no call of a tool has taken an RPM away since then, run and
cloner agree. -/
structure Accordant (tools : Tools) (env : Environment) (w : World) (p : Progress Contents) :
    Prop where
  spares : Spares tools env w p.session.world
  agrees : Unspoiled tools env w.calls p.session.world.calls → w.disk.IsTree → Agrees env p

namespace Accordant

variable {w : World} {p : Progress Contents} {s : Session Contents}

/-- What spares the RPMs and gets no package leaves run and cloner in agreement. -/
theorem of_spares (h : Accordant tools env w p)
    (hspares : Spares tools env p.session.world s.world) (hagent : s.agent = p.session.agent) :
    Accordant tools env w ⟨s, p.cache⟩ where
  spares := h.spares.trans hspares
  agrees hcalls htree := by
    have hbefore := hcalls.of_front hspares.calls
    have hagrees := h.agrees hbefore htree
    obtain ⟨-, htree'⟩ := h.spares.keeps hbefore htree
    obtain ⟨hkeeps, -⟩ := hspares.keeps (hcalls.of_later h.spares.calls) htree'
    refine ⟨fun n hgot => ?_, hagrees.hand,
      fun n hgot => (hagrees.placed n hgot).imp_left (hkeeps n)⟩
    show s.agent.find? n = _
    rw [hagent]
    exact hagrees.entry n hgot

theorem record (h : Accordant tools env w p) (e : Event) :
    Accordant tools env w ⟨⟨p.session.world.record e, p.session.agent⟩, p.cache⟩ :=
  h.of_spares (.record p.session.world e) rfl

/-- A package that was got is known to both. -/
theorem got (h : Accordant tools env w p) {cloneDeps : Bool} {package : String} {prebuilt : Bool}
    (hclone : clonePackage tools env cloneDeps package p.session = (.ok prebuilt, s)) :
    Accordant tools env w ⟨s, p.cache.record package prebuilt⟩ := by
  have hspares := spares_of_clonePackage hclone
  refine ⟨h.spares.trans hspares, fun hcalls htree => ?_⟩
  have hbefore := hcalls.of_front hspares.calls
  have hmeanwhile := hcalls.of_later h.spares.calls
  obtain ⟨-, htree'⟩ := h.spares.keeps hbefore htree
  obtain ⟨hkeeps, -⟩ := hspares.keeps hmeanwhile htree'
  obtain ⟨hplaced, hhand⟩ := isFile_of_clonePackage htree' hmeanwhile hclone
  obtain ⟨hself, hothers⟩ := find?_of_clonePackage hclone
  exact (h.agrees hbefore htree).record hself hothers hhand hplaced hkeeps

end Accordant

/-- Every step of a run leaves run and cloner in agreement. -/
theorem kept_accordant {arbiter : Arbiter Contents} (harbiter : Harmless tools env arbiter)
    (manifest : Manifest) (cloneDeps : Bool) (w : World) :
    Kept (env.context tools arbiter manifest cloneDeps) (Accordant tools env w) where
  record _ e _ h := h.record e
  lookup c r := ⟨fun s h => h.of_spares ((acts_whatProvides r).of_run s.world .refl).spares rfl⟩
  judge c rpms := ⟨fun s h => h.of_spares (harbiter.spares rpms s) (harbiter.agent rpms s)⟩
  fetch package p hmissing h := by
    rcases hclone : clonePackage tools env cloneDeps package p.session with ⟨e | prebuilt, s⟩
    · rw [fetch_of_error hclone]
      exact h.of_spares (spares_of_clonePackage hclone) (clonePackage_eq_error hclone)
    · obtain ⟨e, hfetch⟩ : ∃ e, fetch (env.context tools arbiter manifest cloneDeps) package p
          = (.ok (), ⟨⟨s.world.record e, s.agent⟩, p.cache.record package prebuilt⟩) :=
        fetch_of_ok hclone
      rw [hfetch]
      exact (h.got hclone).record e

theorem maintains_saveContents (w : World) (c : Cache) (path : Path) :
    Maintains (fun s => Accordant tools env w ⟨s, c⟩) ((cloner tools env).saveContents path) := by
  refine .bind (.of_eq fun _ => rfl) fun summary => .bind ⟨fun s h => ?_⟩ fun _ => ⟨fun s h => ?_⟩
  · exact h.of_spares ((sparing_save summary path).spares s.world) rfl
  · exact h.record _

/-! ### RPMs in place -/

/-- On the disk of a new cloner, a package is in place and its path leads to no file: the text of the
path is none that a path can have, or it goes through a directory with RPMs at hand that cannot be
entered. -/
structure OutOfReach (config : ClonerConfig) (env : Environment) (d : Disk) (package : String) :
    Prop where
  inPlace : env.InPlace package
  missing : ¬ d.isFile (env.rpmPath package)
  cause : Disk.pathFault? (env.rpmPath package) ≠ none
    ∨ ∃ dir ∈ [config.rpmDir, config.toolchainDir], ¬ d.Enterable dir

/-- There is no other reason why the RPM of a package in place should be no file for a new cloner. -/
theorem outOfReach_of_inPlace {config : ClonerConfig} {w₀ w₁ : World}
    (hnew : setUp config w₀ = (.ok env, w₁)) (hproper : w₁.disk.Proper) {package : String}
    (hplace : env.InPlace package) (hmissing : ¬ w₁.disk.isFile (env.rpmPath package)) :
    OutOfReach config env w₁.disk package := by
  refine ⟨hplace, hmissing, ?_⟩
  by_contra hcause
  obtain ⟨hfault, hdirs⟩ := not_or.mp hcause
  push Not at hfault hdirs
  obtain ⟨source, hfind, hsame⟩ := hplace
  obtain ⟨d, halike, hindex⟩ := localRpms_of_setUp hnew
  rw [hindex] at hfind
  obtain ⟨l, c, hleads⟩ := leads_of_find?_index (hproper.alike halike.symm)
    (fun dir hdir => (hdirs dir hdir).alike halike.symm) hfind
  obtain ⟨c', hentry⟩ := halike.file hleads.entryAt
  have hsource := hleads.of_retains (.of_alike halike) hentry (by simp)
  have hrpm := Path.isName_rpm (no_slash_of_find?_index hfind)
  have hdest : w₁.disk.Leads (env.rpmPath package) l (.file c') :=
    hsource.of_sameAs hsame (.names_child env.outDir hrpm)
  have hfile := (Disk.find_eq_ok_iff (Path.endsInSlash_child env.outDir hrpm)).mpr ⟨hfault, hdest⟩
  refine hmissing ?_
  rw [Disk.isFile, Environment.rpmPath, rpmPath, hfile]

/-! ### A whole run -/

/-- A cloner is set up, and from then on no RPM is taken away, neither before a run nor by the calls of
the run. Whatever packages the cloner knows at first and whatever else the tools do: for every node that
the run reports as resolved, the cloner has in the end recorded one of the packages that were found for
the node, with the very RPM that the node has, and the RPM is a file unless it is in place and out of
reach. If the node is up to date, the package is recorded as pre-built and is at hand. -/
theorem agrees_resolveGraph {config : ClonerConfig} {w₀ w₁ : World} {arbiter : Arbiter Contents}
    {manifest : Manifest} {cloneDeps : Bool} {options : RunOptions} {start final : RunState Contents}
    {report : Report} {result : Except Error Report} (hnew : setUp config w₀ = (.ok env, w₁))
    (hproper : w₁.disk.Proper) (harbiter : Harmless tools env arbiter)
    (hin : options.inputSummary = none)
    (hloop : (resolveUnresolved (env.context tools arbiter manifest cloneDeps) start).1 = .ok report)
    (hrun : resolveGraph (env.context tools arbiter manifest cloneDeps) options start
      = (result, final))
    (htree : start.progress.session.world.disk.IsTree)
    (hsince : KeepsRpms env w₁.disk start.progress.session.world.disk)
    (hcalls : Unspoiled tools env start.progress.session.world.calls
      final.progress.session.world.calls) :
    ∃ asked, resolveGraph (env.context tools arbiter manifest cloneDeps).recorded options
        (start.withRecord []) = (result, final.withRecord asked)
      ∧ List.Forall₂ (fun o q => ∃ before after, start.graph.node? o.node = some before
        ∧ final.graph.node? o.node = some after ∧ q.1 = before.requirement
        ∧ ∀ id rpm state, o = .resolved id rpm state → after.rpmPath = some rpm
          ∧ ∃ packages, q.2 = .ok packages ∧ ∃ package ∈ packages, ∃ entry,
            final.progress.session.agent.find? package = some entry ∧ entry.rpmPath = rpm
            ∧ (final.progress.session.world.disk.isFile rpm ∨ OutOfReach config env w₁.disk package)
            ∧ (state = .upToDate → entry.prebuilt ∧ env.localRpms.contains package))
        report.outcomes (lookups asked) := by
  have hkept := (kept_accordant harbiter manifest cloneDeps start.progress.session.world).resolveGraph
    (fun c path _ => maintains_saveContents _ c path) hin (s := start)
    ⟨.refl _, fun _ _ => agrees_empty _⟩
  rw [hrun] at hkept
  have hagrees := hkept.agrees hcalls htree
  obtain ⟨hkeeps, -⟩ := hkept.spares.keeps hcalls htree
  have hreach : ∀ package, final.progress.cache.isFetched package →
      final.progress.session.world.disk.isFile (env.rpmPath package)
        ∨ OutOfReach config env w₁.disk package := by
    intro package hgot
    rcases hagrees.placed package hgot with hfile | hplace
    · exact .inl hfile
    · by_cases hthere : w₁.disk.isFile (env.rpmPath package)
      · exact .inl (hkeeps package (hsince package hthere))
      · exact .inr (outOfReach_of_inPlace hnew hproper hplace hthere)
  obtain ⟨asked, hasked, hall⟩ := resolveGraph_supplied hin hloop
  rw [hrun] at hasked hall
  refine ⟨asked, hasked, hall.imp fun o q hoq => ?_⟩
  obtain ⟨before, after, hbefore, hafter, hreq, hfrom⟩ := hoq
  refine ⟨before, after, hbefore, hafter, hreq, fun id rpm state ho => ?_⟩
  obtain ⟨hrpm, packages, hq, package, hmem, hgot, rfl, hpre⟩ := hfrom id rpm state ho
  refine ⟨hrpm, packages, hq, package, hmem, _, hagrees.entry package hgot, rfl,
    hreach package hgot, fun hstate => ?_⟩
  exact ⟨hpre hstate, hagrees.hand package hgot (hpre hstate)⟩

/-! ### A package in place -/

/-- Tools that find one package for everything, and leave the disk alone. -/
def findingTools : Tools := fun _ _ d =>
  some (⟨0, Text.Utf8.encode "zlib-1.0-1.x : a library\n", []⟩, d)

theorem unspoiled_findingTools (env : Environment) (first calls : List Call) :
    Unspoiled findingTools env first calls := by
  rintro before call after - - reply d h
  cases h
  exact ⟨fun _ hp => hp, fun htree => htree⟩

theorem yields_findingTools {r : Requirement}
    (hargs : (env.baseArgs ++ ["provides", r.toText]).any (·.toList.contains '\x00') = false) :
    Yields findingTools env r "zlib-1.0-1.x" := by
  rintro d ⟨_, events, calls, scratches, _⟩ ⟨rfl, rfl⟩
  have hparse : Listing.Provides.parse
      (Text.Utf8.decodeLossy (Text.Utf8.encode "zlib-1.0-1.x : a library\n")) = ["zlib-1.0-1.x"] := by
    decide +kernel
  unfold whatProvides call
  simp only [bind_assoc]
  rw [bind_apply]
  show ∃ w', andThen _ (.ok (), _) = _ ∧ _
  rw [andThen_ok, bind_apply, mapError_apply, World.spawn, hargs, if_neg (by decide)]
  dsimp only [findingTools]
  show ∃ w', andThen _ (.ok _, _) = _ ∧ _
  rw [andThen_ok]
  dsimp only
  rw [hparse]
  exact ⟨_, rfl, rfl, rfl⟩

/-- A disk with the RPM of the package at hand, whose directory may be one that cannot be entered. -/
def zlibDisk (search : Bool) : Disk :=
  .permit ⟨.ofList [(["tmp"], .directory), (["base.repo"], .file []), (["rpms"], .directory),
    (["rpms", "zlib-1.0-1.x.rpm"], .file [1, 2, 3]), (["tc"], .directory),
    (["w.tgz"], .file (Archive.Gzip.pack []))], [], ∅⟩ ["rpms"] ⟨true, true, search⟩

/-- Settings with the directory of the RPM as the output directory, and slashes behind its path. -/
def placedConfig (slashes : Nat) : ClonerConfig :=
  { rpmsConfig "rpms" with outDir := (rpmsConfig "rpms").outDir.slashed slashes }

/-- The environment that is set up for these settings. -/
def placedEnv (slashes : Nat) : Environment where
  outDir := (placedConfig slashes).outDir
  root := ⟨"/tmp/.tmp000000/worker"⟩
  reposDir := ⟨"/tmp/.tmp000000/repos.d"⟩
  repositoryArgs := []
  localRpms := .ofList [("zlib-1.0-1.x", ⟨"rpms/zlib-1.0-1.x.rpm"⟩)]

/-- The world after that. -/
def placedWorld (search : Bool) : World := (setUp (placedConfig 0) (.start (zlibDisk search))).2

/-- What the cloner is set up with, and the world that this leaves. -/
theorem placedWorld_facts (search : Bool) :
    (setUp (placedConfig 0) (.start (zlibDisk search))).1 = .ok (placedEnv 0)
      ∧ (placedWorld search).logFile.isNone
      ∧ (placedWorld search).disk.find (placedConfig 0).outDir = .ok (["rpms"], .directory)
      ∧ ((placedWorld search).disk.accessAt ["rpms"]).read
      ∧ (placedWorld search).disk.isFile ⟨"rpms/zlib-1.0-1.x.rpm"⟩ = search := by
  cases search <;> decide +kernel

theorem setUp_placedConfig (search : Bool) {slashes : Nat}
    (hsize : (placedConfig 0).outDir.text.utf8ByteSize + slashes < Disk.maxPathSize) :
    setUp (placedConfig slashes) (.start (zlibDisk search))
      = (.ok (placedEnv slashes), placedWorld search) := by
  obtain ⟨hnew, -⟩ := placedWorld_facts search
  refine @setUp_slashed (placedEnv 0) (placedConfig 0) _ _ ["rpms"] ?_ ?_ slashes hsize
    (Prod.ext hnew rfl)
  · cases search <;> decide +kernel
  · cases search <;> decide +kernel

theorem inPlace_placedEnv (slashes : Nat) : (placedEnv slashes).InPlace "zlib-1.0-1.x" :=
  ⟨(placedConfig 0).outDir.child "zlib-1.0-1.x.rpm", rfl,
    Path.sameAs_child_slashed (by decide) (by decide) slashes⟩

/-- A graph with one node that wants the package. -/
def zlibAlone : Graph where
  nodes := .ofList [(0, wantedRun 0 "zlib" false)]
  needs := ∅
  neededBy := ∅
  slots := .ofList [(⟨"zlib", none, none⟩, 0)]

/-- Runs that take the RPM of the package for one of the toolchain. -/
def toolchainContext (tools : Tools) (env : Environment) : Context Contents :=
  env.context tools (TestTransaction.arbiter tools ⟨"/scratch/root"⟩)
    (.ofList ["zlib-1.0-1.x.rpm"]) false

/-- The start of a run with a new cloner. -/
def newStart (g : Graph) (w : World) : RunState Contents := ⟨g, ⟨⟨w, ∅⟩, .empty⟩⟩

/-- A run reports the path where the RPM is in place, and leaves the disk as it is. -/
theorem resolveGraph_placedEnv (search : Bool) {slashes : Nat}
    (hsize : (placedConfig 0).outDir.text.utf8ByteSize + slashes < Disk.maxPathSize) :
    ∃ final, resolveGraph (toolchainContext findingTools (placedEnv slashes)) ⟨none, none, false⟩
        (newStart zlibAlone (placedWorld search))
      = (.ok ⟨[.resolved 0 ((placedEnv slashes).rpmPath "zlib-1.0-1.x") .upToDate], false⟩, final)
      ∧ final.progress.session.world.disk = (placedWorld search).disk
      ∧ final.progress.session.agent = SortedMap.ofList
        [("zlib-1.0-1.x", ⟨(placedEnv slashes).rpmPath "zlib-1.0-1.x", true⟩)] := by
  obtain ⟨-, hlogFile, hfind, hread, -⟩ := placedWorld_facts search
  have hscan : ∃ names, scan (placedEnv slashes).outDir (placedWorld search).disk = .ok names := by
    rw [scan, Disk.list]
    have hslashed : (placedWorld search).disk.find (placedEnv slashes).outDir
        = .ok (["rpms"], .directory) := Disk.find_slashed hfind hsize
    rw [hslashed]
    dsimp only
    rw [if_pos hread]
    exact ⟨_, rfl⟩
  obtain ⟨names, hscan⟩ := hscan
  have hlisted : (Manifest.ofList ["zlib-1.0-1.x.rpm"]).lists
      ((placedEnv slashes).rpmPath "zlib-1.0-1.x") := by
    have hname : ((placedEnv slashes).rpmPath "zlib-1.0-1.x").fileName? = some "zlib-1.0-1.x.rpm" :=
      Path.fileName?_child _ (by decide)
    rw [Manifest.lists, hname]
    decide +kernel
  have hsilent : Silent (placedWorld search).disk (placedWorld search) :=
    ⟨rfl, Option.isNone_iff_eq_none.mp hlogFile⟩
  have hargs : ((placedEnv slashes).baseArgs ++ ["provides", "zlib"]).any
      (·.toList.contains '\x00') = false := by
    show ((placedEnv 0).baseArgs ++ ["provides", "zlib"]).any _ = false
    decide +kernel
  obtain ⟨w, hloop, hw⟩ := @resolveUnresolved_of_inPlace findingTools (placedEnv slashes)
    (TestTransaction.arbiter findingTools ⟨"/scratch/root"⟩) (.ofList ["zlib-1.0-1.x.rpm"])
    ⟨placedWorld search, ∅⟩ _ _ names (inPlace_placedEnv slashes) hscan hlisted hsilent zlibAlone 0
    (wantedRun 0 "zlib" false) rfl rfl rfl (yields_findingTools hargs)
  exact ⟨_, (resolveGraph_of_resolveUnresolved rfl hloop).trans rfl, hw.disk, rfl⟩

/-- Where the path can be followed, the node has the RPM that is in place, and so has the cloner. -/
theorem agrees_placedEnv :
    setUp (placedConfig 1) (.start (zlibDisk true)) = (.ok (placedEnv 1), placedWorld true)
      ∧ ∃ final package entry,
        resolveGraph (toolchainContext findingTools (placedEnv 1)) ⟨none, none, false⟩
            (newStart zlibAlone (placedWorld true))
          = (.ok ⟨[.resolved 0 ⟨"rpms/zlib-1.0-1.x.rpm"⟩ .upToDate], false⟩, final)
        ∧ final.progress.session.agent.find? package = some entry
        ∧ entry.rpmPath = ⟨"rpms/zlib-1.0-1.x.rpm"⟩
        ∧ final.progress.session.world.disk.isFile ⟨"rpms/zlib-1.0-1.x.rpm"⟩
        ∧ entry.prebuilt ∧ (placedEnv 1).localRpms.contains package := by
  have hnew := @setUp_placedConfig true 1 (by decide)
  have hpath : (placedEnv 1).rpmPath "zlib-1.0-1.x" = ⟨"rpms/zlib-1.0-1.x.rpm"⟩ := by decide +kernel
  obtain ⟨final, hrun, hdisk, hagent⟩ := @resolveGraph_placedEnv true 1 (by decide)
  rw [hpath] at hrun hagent
  have hproper : (placedWorld true).disk.Proper := .of_entries (by decide +kernel) (by decide +kernel)
  have hloop : (resolveUnresolved (toolchainContext findingTools (placedEnv 1))
      (newStart zlibAlone (placedWorld true))).1
      = .ok ⟨[.resolved 0 ⟨"rpms/zlib-1.0-1.x.rpm"⟩ .upToDate], false⟩ := by decide +kernel
  have hin : (⟨none, none, false⟩ : RunOptions).inputSummary = none := rfl
  obtain ⟨asked, -, hall⟩ := agrees_resolveGraph hnew hproper
    (harmless_testTransaction ⟨"/scratch/root"⟩) hin hloop hrun hproper.isTree (fun _ h => h)
    (unspoiled_findingTools _ _ _)
  obtain ⟨q, -, _, _, -, -, -, hfrom⟩ := exists_of_forall₂ hall List.mem_cons_self
  obtain ⟨-, packages, -, package, -, entry, hentry, hrpm, hfile, hstate⟩ := hfrom _ _ _ rfl
  refine ⟨hnew, final, package, entry, hrun, hentry, hrpm, ?_, hstate rfl⟩
  rcases hfile with hfile | hreach
  · exact hfile
  · -- the one package that is recorded has its RPM
    rw [hagent] at hentry
    cases List.mem_singleton.mp (SortedMap.find?_eq_some_iff.mp hentry)
    obtain ⟨-, -, -, -, hthere⟩ := placedWorld_facts true
    have hmissing := hreach.missing
    rw [hpath] at hmissing
    exact absurd hthere hmissing

/-- After a cloner was set up on the disk, a run reports that a node is up to date. Every file that was
there then is where it was, but the path that is reported for the node leads to no file. -/
def Dangles (config : ClonerConfig) (d : Disk) (tools : Tools) (g : Graph) (rpm : Path) : Prop :=
  ∃ env w report final, setUp config (.start d) = (.ok env, w)
    ∧ resolveGraph (toolchainContext tools env) ⟨none, none, false⟩ (newStart g w) = (.ok report, final)
    ∧ .resolved 0 rpm .upToDate ∈ report.outcomes
    ∧ (∀ l c, w.disk.entries.find? l = some (.file c) →
        final.progress.session.world.disk.entries.find? l = some (.file c))
    ∧ ¬ final.progress.session.world.disk.isFile rpm

theorem dangles_zlibDisk {slashes : Nat} {search : Bool}
    (hsize : (placedConfig 0).outDir.text.utf8ByteSize + slashes < Disk.maxPathSize)
    (hmissing : ¬ (placedWorld search).disk.isFile ((placedEnv slashes).rpmPath "zlib-1.0-1.x")) :
    Dangles (placedConfig slashes) (zlibDisk search) findingTools zlibAlone
      ((placedEnv slashes).rpmPath "zlib-1.0-1.x") := by
  obtain ⟨final, hrun, hdisk, -⟩ := resolveGraph_placedEnv search hsize
  refine ⟨_, _, _, final, setUp_placedConfig search hsize, hrun, List.mem_cons_self, ?_, ?_⟩
  · rw [hdisk]
    exact fun _ _ h => h
  · rwa [hdisk]

/-- A disk on which the output directory is found through a link. -/
def linkedOutDisk : Disk :=
  ⟨.ofList [(["tmp"], .directory), (["base.repo"], .file []), (["rpms"], .directory),
    (["rpms", "zlib-1.0-1.x.rpm"], .file [1, 2, 3]), (["real"], .directory),
    (["out"], .link ⟨"real"⟩), (["tc"], .directory), (["w.tgz"], .file (Archive.Gzip.pack []))], [], ∅⟩

/-- Tools that remove this link when they are called again. -/
def unlinkingTools : Tools := fun calls _ d =>
  some (⟨0, Text.Utf8.encode "zlib-1.0-1.x : a library\n", []⟩,
    if calls.isEmpty then d else (Disk.remove ⟨"out"⟩ d).2)

/-- A run for two nodes with these tools, if it succeeds: the environment, the world before and what
comes of it. -/
def unlinkedRun : Option (Environment × World × Report × RunState Contents) :=
  match setUp (rpmsConfig "out") (.start linkedOutDisk) with
  | (.ok env, w) =>
    match resolveGraph (toolchainContext unlinkingTools env) ⟨none, none, false⟩
        (newStart zlibAndCurl w) with
    | (.ok report, final) => some (env, w, report, final)
    | _ => none
  | _ => none

theorem of_unlinkedRun {w : World} {report : Report} {final : RunState Contents}
    (h : unlinkedRun = some (env, w, report, final)) :
    setUp (rpmsConfig "out") (.start linkedOutDisk) = (.ok env, w)
      ∧ resolveGraph (toolchainContext unlinkingTools env) ⟨none, none, false⟩
        (newStart zlibAndCurl w) = (.ok report, final) := by
  unfold unlinkedRun at h
  split at h
  next env' w' hnew =>
    split at h
    next report' final' hrun =>
      cases h
      exact ⟨hnew, hrun⟩
    next => cases h
  next => cases h

theorem dangles_linkedOutDisk :
    Dangles (rpmsConfig "out") linkedOutDisk unlinkingTools zlibAndCurl
      ⟨"out/zlib-1.0-1.x.rpm"⟩ := by
  have hcheck : unlinkedRun.any (fun (env, w, report, final) =>
      .resolved 0 ⟨"out/zlib-1.0-1.x.rpm"⟩ .upToDate ∈ report.outcomes
        ∧ (∀ p ∈ w.disk.entries.entries, p.2 ≠ .link ⟨"real"⟩ →
          final.progress.session.world.disk.entries.find? p.1 = some p.2)
        ∧ ¬ final.progress.session.world.disk.isFile ⟨"out/zlib-1.0-1.x.rpm"⟩) = true := by
    decide +kernel
  obtain ⟨⟨env, w, report, final⟩, hrun, hfacts⟩ := Option.any_eq_true _ _ |>.mp hcheck
  obtain ⟨hmem, hkept, hmissing⟩ := of_decide_eq_true hfacts
  obtain ⟨hnew, hresolve⟩ := of_unlinkedRun hrun
  refine ⟨env, w, report, final, hnew, hresolve, hmem, fun l c hfile => ?_, hmissing⟩
  exact hkept (l, .file c) (SortedMap.find?_eq_some_iff.mp hfile) (by simp)

/-- That no RPM is deleted is not enough for the RPM of a resolved node to be a file. Its path may be too
long for a file, it may be hidden in a directory that cannot be entered, or a link on the way to it may
be gone. -/
theorem not_isFile_of_upToDate :
    Dangles (placedConfig 4080) (zlibDisk true) findingTools zlibAlone
        ((placedEnv 4080).rpmPath "zlib-1.0-1.x")
      ∧ Dangles (placedConfig 0) (zlibDisk false) findingTools zlibAlone ⟨"rpms/zlib-1.0-1.x.rpm"⟩
      ∧ Dangles (rpmsConfig "out") linkedOutDisk unlinkingTools zlibAndCurl
        ⟨"out/zlib-1.0-1.x.rpm"⟩ := by
  refine ⟨dangles_zlibDisk (by decide) fun hfile => ?_, ?_, dangles_linkedOutDisk⟩
  · have hshort := Disk.utf8ByteSize_lt_of_pathFault? (Disk.isFile_iff.mp hfile).1
    have hlong : (rpmsConfig "rpms").outDir.text.utf8ByteSize + 4080 + "zlib-1.0-1.x.rpm".utf8ByteSize
        ≤ ((placedEnv 4080).rpmPath "zlib-1.0-1.x").text.utf8ByteSize := by
      rw [← Path.utf8ByteSize_slashed]
      exact Path.utf8ByteSize_le_child _ (by decide)
    exact absurd (Nat.lt_of_le_of_lt hlong hshort) (by decide)
  · obtain ⟨-, -, -, -, hthere⟩ := placedWorld_facts false
    exact @dangles_zlibDisk 0 false (by decide) (ne_true_of_eq_false hthere)

end RpmProvision.Tdnf
