/-
The repository files that are collected.

The repository files of the settings and those of the worker archive are copied into a fresh
directory, each under a name that begins with its number. So no copy takes the place of another one,
and the directory holds the copies and nothing else.

* **`number_copyName`** — the number of a copy can be read off its name;
* **`Copied`**, **`copyRepoFiles_eq_ok`** — the copies that are made, one after the other;
* **`fresh_of_prepare`** — the directory that they are put in is a fresh one;
* **`Collection`**, **`exists_collection`** — how the files came to be there;
* **`repoFiles_collected`** — there is one copy of each file in the end, with what the file holds.
-/
import Mathlib.Data.List.Sigma
import RpmProvision.Proofs.Archive.Confinement
import RpmProvision.Proofs.Disk.Copying
import RpmProvision.Proofs.Tdnf.SetUp
import RpmProvision.Tdnf.Cloner

namespace RpmProvision.Tdnf

open Step Disk

/-! ### Names of copies -/

/-- The number that a name begins with. -/
def number (name : String) : Nat := Nat.ofDigitChars 10 (name.toList.takeWhile (· != '-')) 0

theorem toList_twoDigits (n : Nat) :
    (twoDigits n).toList = (if n < 10 then ['0'] else []) ++ Nat.toDigits 10 n := by
  have hself : (toString n).toList = Nat.toDigits 10 n := String.toList_ofList
  rw [twoDigits, String.toList_append, hself]
  by_cases hn : n < 10
  · rw [if_pos hn, if_pos hn]
    rfl
  · rw [if_neg hn, if_neg hn]
    rfl

theorem isDigit_of_mem_twoDigits {n : Nat} {c : Char} (h : c ∈ (twoDigits n).toList) :
    c.isDigit = true := by
  rw [toList_twoDigits] at h
  rcases List.mem_append.mp h with h | h
  · by_cases hn : n < 10
    · rw [if_pos hn, List.mem_singleton] at h
      rw [h]
      rfl
    · rw [if_neg hn] at h
      cases h
  · exact Nat.isDigit_of_mem_toDigits (by omega) (by omega) h

/-- The number of a copy can be read off its name. -/
theorem number_copyName (n : Nat) (source : Path) : number (copyName n source) = n := by
  have hdash : ∀ c ∈ (twoDigits n).toList, (c != '-') = true := by
    intro c hc
    have hdigit := isDigit_of_mem_twoDigits hc
    rw [bne_iff_ne]
    rintro rfl
    revert hdigit
    decide
  have htake : (copyName n source).toList.takeWhile (· != '-') = (twoDigits n).toList := by
    rw [copyName, String.toList_append, String.toList_append, List.append_assoc,
      List.takeWhile_append_of_pos hdash]
    exact List.append_nil _
  rw [number, htake, toList_twoDigits]
  by_cases hn : n < 10
  · rw [if_pos hn]
    exact Nat.ofDigitChars_ten_toDigits
  · rw [if_neg hn]
    exact Nat.ofDigitChars_ten_toDigits

theorem isName_copyName (n : Nat) (source : Path) : Path.IsName (copyName n source) := by
  have hname : '/' ∉ (source.fileName?.getD "repo").toList := by
    cases hsource : source.fileName? with
    | none => decide
    | some name => exact (Path.isName_of_fileName? hsource).no_slash
  obtain ⟨c, rest, htext⟩ : ∃ c rest, (twoDigits n).toList = c :: rest := by
    refine List.exists_cons_of_ne_nil fun hnil => ?_
    rw [toList_twoDigits, List.append_eq_nil_iff] at hnil
    exact Nat.toDigits_ne_nil hnil.2
  have hdigit : c.isDigit = true := isDigit_of_mem_twoDigits (htext ▸ List.mem_cons_self)
  have hfirst : (copyName n source).toList.head? = some c := by
    rw [copyName, String.toList_append, String.toList_append, htext]
    rfl
  refine ⟨fun hslash => ?_, ?_, ?_, ?_⟩
  · rw [copyName, String.toList_append, String.toList_append, List.mem_append,
      List.mem_append] at hslash
    rcases hslash with (hslash | hslash) | hslash
    · have := isDigit_of_mem_twoDigits hslash
      revert this
      decide
    · revert hslash
      decide
    · exact hname hslash
  · intro heq
    rw [heq] at hfirst
    cases hfirst
  · intro heq
    rw [heq] at hfirst
    cases hfirst
    cases hdigit
  · intro heq
    rw [heq] at hfirst
    cases hfirst
    cases hdigit

/-! ### Copies -/

/-- The files of a list have been copied into a directory, each under its own name, and nothing else
has changed. -/
structure Copied (l : Location) (sources : List (Path × Nat)) (d d' : Disk) : Prop where
  isTree : d'.IsTree
  grows : ∀ log, Grows log d d'
  other : ∀ l', (∀ s ∈ sources, l' ≠ l ++ [copyName s.2 s.1]) → Untouched l' d d'
  copies : ∀ s ∈ sources, ∃ c, d'.Holds s.1 c
    ∧ d'.entryAt (l ++ [copyName s.2 s.1]) = some (.file c)

theorem Copied.nil {l : Location} {d : Disk} (h : d.IsTree) : Copied l [] d d :=
  ⟨h, fun _ => .refl d, fun l' _ => .refl l' d, by simp⟩

/-- What has been copied stays while further files are copied. -/
theorem Copied.cons {l : Location} {source : Path} {n : Nat} {rest : List (Path × Nat)}
    {d d₁ d' : Disk} (hgrows : ∀ log, Grows log d d₁)
    (hother : ∀ l', l' ≠ l ++ [copyName n source] → Untouched l' d d₁) {c : Bytes}
    (hsource : d₁.Holds source c) (hcopy : d₁.entryAt (l ++ [copyName n source]) = some (.file c))
    (h : Copied l rest d₁ d') : Copied l ((source, n) :: rest) d d' where
  isTree := h.isTree
  grows log := (hgrows log).trans (h.grows log)
  other l' hl' := (hother l' (hl' (source, n) List.mem_cons_self)).trans
    (h.other l' fun s hs => hl' s (List.mem_cons_of_mem _ hs))
  copies := by
    intro s hs
    rcases List.mem_cons.mp hs with rfl | hs
    · obtain ⟨origin, horigin⟩ := hsource
      exact ⟨c, ⟨origin, (h.grows none).leads_file (by simp) horigin⟩,
        (h.grows none).entryAt (by simp) hcopy⟩
    · exact h.copies s hs

/-- The copies that are made, one after the other. -/
theorem copyRepoFiles_eq_ok {dir : Path} {l : Location} {sources : List (Path × Nat)}
    (hnumbers : (sources.map Prod.snd).Nodup) {w w' : World} (htree : w.disk.IsTree)
    (hleads : w.disk.Leads dir l .directory)
    (hnone : ∀ s ∈ sources, w.disk.entryAt (l ++ [copyName s.2 s.1]) = none) {files : List Path}
    (h : copyRepoFiles dir sources w = (.ok files, w')) :
    files = (sources.map fun s => dir.child (copyName s.2 s.1))
      ∧ ∃ d, w' = { w with disk := d } ∧ Copied l sources w.disk d := by
  induction sources generalizing w files with
  | nil =>
    cases h
    exact ⟨rfl, _, rfl, .nil htree⟩
  | cons s rest ih =>
    obtain ⟨source, n⟩ := s
    obtain ⟨_, w₁, hcopy, h⟩ := bind_eq_ok.mp h
    obtain ⟨d₁, hcopied, rfl⟩ := World.onDisk_eq_ok (mapError_eq_ok hcopy)
    obtain ⟨more, w₂, hrest, h⟩ := bind_eq_ok.mp h
    obtain ⟨rfl, rfl⟩ : files = dir.child (copyName n source) :: more ∧ w' = w₂ := by
      cases h
      exact ⟨rfl, rfl⟩
    obtain ⟨htree₁, hgrows, hother, c, hsource, hentry⟩ := htree.copied_new
      (isName_copyName n source) hleads (hnone (source, n) List.mem_cons_self) hcopied
    rw [List.map_cons, List.nodup_cons] at hnumbers
    -- the other numbers are different, and so are the names
    have hnone₁ : ∀ s ∈ rest, d₁.entryAt (l ++ [copyName s.2 s.1]) = none := by
      intro s hs
      rw [(hother _ ?_).1, hnone s (List.mem_cons_of_mem _ hs)]
      intro heq
      obtain heq : copyName s.2 s.1 = copyName n source := by simpa using heq
      have hnumber := congrArg number heq
      rw [number_copyName, number_copyName] at hnumber
      exact hnumbers.1 (List.mem_map.mpr ⟨s, hs, hnumber⟩)
    obtain ⟨rfl, d, rfl, hd⟩ := ih hnumbers.2 htree₁ ((hgrows none).leads_directory hleads) hnone₁
      hrest
    exact ⟨rfl, d, rfl, .cons hgrows hother hsource hentry hd⟩

/-! ### The files to copy -/

/-- The unpacked archive has a repository file with the name. -/
def HasRepoFile (d : Disk) (root : Path) (name : String) : Prop :=
  ∃ l e, d.find (defaultReposDir root) = .ok (l, .directory) ∧ d.entryAt (l ++ [name]) = some e
    ∧ ((defaultReposDir root).child name).extension? = some "repo"

/-- The repository files of an unpacked archive, each once. -/
theorem defaultRepoFiles_eq_ok {d : Disk} {root : Path} {own : List Path}
    (h : defaultRepoFiles d root = .ok own) :
    ∃ names : List String, names.Nodup ∧ (∀ name, name ∈ names ↔ HasRepoFile d root name)
      ∧ own = names.map (defaultReposDir root).child := by
  have hnone (hdir : d.isDirectory (defaultReposDir root) = false) (name : String) :
      ¬ HasRepoFile d root name := by
    rintro ⟨l, e, hfind, -⟩
    rw [isDirectory_iff.mpr ⟨l, hfind⟩] at hdir
    cases hdir
  rw [defaultRepoFiles] at h
  cases hdir : d.isDirectory (defaultReposDir root) with
  | false =>
    rw [hdir, if_neg (by decide)] at h
    cases h
    exact ⟨[], List.nodup_nil, fun name => by simp [hnone hdir name], rfl⟩
  | true =>
    obtain ⟨l, hfind⟩ := isDirectory_iff.mp hdir
    rw [hdir, if_pos rfl, list, hfind] at h
    dsimp only at h
    by_cases hread : (d.accessAt l).read = true
    swap
    · rw [if_neg hread] at h
      cases h
    rw [if_pos hread] at h
    cases h
    let isRepo (name : String) : Bool :=
      ((defaultReposDir root).child name).extension? = some "repo"
    refine ⟨((d.children l).map Prod.fst).filter isRepo, (d.nodup_children l).filter _, ?_, ?_⟩
    · intro name
      rw [List.mem_filter, List.mem_map, decide_eq_true_iff]
      constructor
      · rintro ⟨⟨⟨_, e⟩, hmem, rfl⟩, hext⟩
        exact ⟨l, e, hfind, mem_children_iff.mp hmem, hext⟩
      · rintro ⟨l', e, hfind', hentry, hext⟩
        cases hfind.symm.trans hfind'
        exact ⟨⟨(name, e), mem_children_iff.mpr hentry, rfl⟩, hext⟩
    · have hmap : (d.children l).map (fun e => (defaultReposDir root).child e.1)
          = ((d.children l).map Prod.fst).map (defaultReposDir root).child := by
        rw [List.map_map]
        rfl
      exact (congrArg _ hmap).trans List.filter_map

/-- The sources of the copies: the files of the settings, then those of the archive unless they are
not to be used. -/
theorem repoSources_eq_ok {config : ClonerConfig} {d : Disk} {root : Path} {sources : List Path}
    (h : repoSources config root d = .ok sources) :
    ∃ names : List String, names.Nodup
      ∧ (∀ name, name ∈ names ↔ config.disableDefaultRepos = false ∧ HasRepoFile d root name)
      ∧ sources = config.repoFiles ++ names.map (defaultReposDir root).child := by
  rw [repoSources] at h
  cases hdefault : config.disableDefaultRepos with
  | true =>
    rw [hdefault, if_pos rfl] at h
    cases h
    exact ⟨[], List.nodup_nil, by simp, (List.append_nil _).symm⟩
  | false =>
    rw [hdefault, if_neg (by decide)] at h
    rcases hown : defaultRepoFiles d root with fault | own
    · rw [hown] at h
      cases h
    · rw [hown] at h
      cases h
      obtain ⟨names, hnodup, hnames, rfl⟩ := defaultRepoFiles_eq_ok hown
      exact ⟨names, hnodup, by simpa using hnames, rfl⟩

/-! ### Before the copies are made -/

theorem grown_of_makeScratch {tmpDir : Option Path} {w w' : World} {scratch : Path}
    (htree : w.disk.IsTree) (h : makeScratch tmpDir w = (.ok scratch, w')) :
    World.Grown w w' ∧ ∃ l, w'.disk.Fresh scratch l := by
  unfold makeScratch at h
  cases tmpDir with
  | none => exact World.makeScratch_eq_ok htree (mapError_eq_ok h)
  | some dir =>
    obtain ⟨_, w₁, hdir, hmake⟩ := bind_eq_ok.mp h
    have hgrown := World.grown_onDisk_makeDirWithParents htree dir
    rw [mapError_eq_ok hdir] at hgrown
    obtain ⟨hgrown', hfresh⟩ := World.makeScratch_eq_ok hgrown.isTree (mapError_eq_ok hmake)
    exact ⟨hgrown.trans hgrown', hfresh⟩

theorem isName_reposd : Path.IsName "repos.d" := by
  constructor <;> decide

/-- What is there before repository files are copied: the settings were found to be in order,
nothing that was there has been touched, and the directory for the copies is a fresh one. -/
theorem fresh_of_prepare {config : ClonerConfig} {scratch : Path} {w ready : World}
    (htree : w.disk.IsTree) (h : prepare config w = (.ok scratch, ready)) :
    config.validate w.disk = .ok () ∧ World.Grown w ready
      ∧ ∃ l, ready.disk.Fresh (scratch.child "repos.d") l
        ∧ pathFault? (scratch.child "repos.d") = none := by
  obtain ⟨_, w₁, hcheck, h⟩ := bind_eq_ok.mp h
  obtain ⟨hvalid, rfl⟩ := Prod.mk.inj (mapError_eq_ok hcheck)
  obtain ⟨_, w₂, hout, h⟩ := bind_eq_ok.mp h
  have hgrown := World.grown_onDisk_makeDirWithParents htree config.outDir
  rw [mapError_eq_ok hout] at hgrown
  obtain ⟨scratch', w₃, hscratch, h⟩ := bind_eq_ok.mp h
  obtain ⟨hgrown₃, l, hfresh⟩ := grown_of_makeScratch hgrown.isTree hscratch
  obtain ⟨_, w₄, hextract, h⟩ := bind_eq_ok.mp h
  obtain ⟨_, w₅, hrepos, h⟩ := bind_eq_ok.mp h
  cases h
  have hworker : Path.IsName "worker" := by
    constructor <;> decide
  obtain ⟨hgrown₄, hother⟩ := Archive.Worker.grown_of_extract hworker hgrown₃.isTree hfresh hextract
  obtain ⟨d, hmade, rfl⟩ := World.onDisk_eq_ok (mapError_eq_ok hrepos)
  obtain ⟨hroom, rfl⟩ := room_of_makeDirWithParents isName_reposd
    (hgrown₄.grows.leads_directory hfresh.leads) (hother "repos.d" (by decide)) hmade
  refine ⟨hvalid, ?_, _, hroom.fresh hgrown₄.isTree isName_reposd, hroom.noFault⟩
  exact ((hgrown.trans hgrown₃).trans hgrown₄).trans
    (.of_disk (hroom.put isName_reposd (by simp) .full _).1 (hgrown₄.isTree.put_room hroom _ _))

/-! ### After the copies are made -/

/-- The files of the settings, and those with some names in the archive. -/
def sourcesOf (config : ClonerConfig) (root : Path) (names : List String) : List Path :=
  config.repoFiles ++ names.map (defaultReposDir root).child

/-- How the repository files of an environment came to be: the settings were found to be in order,
the files were copied into a fresh directory, and then only the log went on. -/
structure Collection (config : ClonerConfig) (env : Environment) (names : List String)
    (l : Location) (w ready copied w' : World) : Prop where
  valid : config.validate w.disk = .ok ()
  before : World.Grown w ready
  fresh : ready.disk.Fresh env.reposDir l
  meanwhile : World.Grown ready copied
  copies : Copied l (sourcesOf config env.root names).zipIdx ready.disk copied.disk
  after : ∃ events, w' = copied.recordAll events
  entryAt : ∀ name, w'.disk.entryAt (l ++ [name]) = copied.disk.entryAt (l ++ [name])
  list : w'.disk.list env.reposDir = .ok (w'.disk.children l)
  selected : ∃ args selected, Alike selected.disk w'.disk
    ∧ selectionArgs config ((sourcesOf config env.root names).zipIdx.map fun s =>
      env.reposDir.child (copyName s.2 s.1)) copied = (.ok args, selected)
    ∧ env.repositoryArgs = repositoryArgs config args selected.disk

/-- The repository files of every environment that is set up came to be in this way. -/
theorem exists_collection {config : ClonerConfig} {env : Environment} {w w' : World}
    (htree : w.disk.IsTree) (hlog : w.LogStands) (hnew : setUp config w = (.ok env, w')) :
    ∃ scratch ready names l copied, prepare config w = (.ok scratch, ready)
      ∧ env.root = scratch.child "worker"
      ∧ (∀ name, name ∈ names ↔
        config.disableDefaultRepos = false ∧ HasRepoFile ready.disk env.root name)
      ∧ names.Nodup ∧ Collection config env names l w ready copied w' := by
  obtain ⟨scratch, ready, sources, files, copied, selection, selected, e, hprepare, hsources,
    hcopies, hselection, rfl, rfl⟩ := setUp_eq_ok hnew
  obtain ⟨hvalid, hgrown, l, hfresh, hfault⟩ := fresh_of_prepare htree hprepare
  obtain ⟨names, hnodup, hnames, rfl⟩ := repoSources_eq_ok hsources
  obtain ⟨rfl, d, rfl, hcopied⟩ := copyRepoFiles_eq_ok (List.nodup_zipIdx_map_snd _) hgrown.isTree
    hfresh.leads (fun s _ => hfresh.bare _ (below_child l _)) hcopies
  have hmeanwhile : World.Grown ready { ready with disk := d } :=
    .of_disk (hcopied.grows _) hcopied.isTree
  -- when the copies are made, only the log goes on
  obtain ⟨events, hevents⟩ : ∃ events,
      selected.record e = ({ ready with disk := d } : World).recordAll events := by
    rcases selectionArgs_eq_ok hselection with ⟨-, ⟨e', rfl⟩, -⟩ | ⟨-, rfl, -⟩
    · exact ⟨[e', e], rfl⟩
    · exact ⟨[e], rfl⟩
  have hafter := World.grown_recordAll hmeanwhile.isTree events
  have hleads := hmeanwhile.grows.leads_directory hfresh.leads
  refine ⟨scratch, ready, names, l, _, hprepare, rfl, hnames, hnodup, hvalid, hgrown, hfresh,
    hmeanwhile, hcopied, ⟨events, hevents⟩, fun name => ?_, ?_, selection, selected,
    selected.alike_record e, hselection, rfl⟩
  · -- the log stood before, so it is not one of the copies
    rw [hevents]
    refine (World.untouched_recordAll_of_ne (fun heq => ?_) events).1
    obtain ⟨c, hc⟩ := hgrown.logStands hlog (l ++ [name]) heq
    rw [hfresh.bare _ (below_child l name)] at hc
    cases hc
  · have haccess := (hafter.grows.retains.access l hleads.entryAt).trans
      (hmeanwhile.grows.retains.access l hfresh.leads.entryAt)
    have hfind := (find_eq_ok_iff (Path.endsInSlash_child scratch isName_reposd)).mpr
      ⟨hfault, hafter.grows.leads_directory hleads⟩
    rw [hevents, Disk.list, hfind]
    dsimp only
    rw [haccess, hfresh.access]
    rfl

namespace Collection

variable {config : ClonerConfig} {env : Environment} {names : List String} {l : Location}
  {w ready copied w' : World}

/-- Nothing that was there before has been touched. -/
theorem grown (h : Collection config env names l w ready copied w') : World.Grown w w' := by
  obtain ⟨events, rfl⟩ := h.after
  exact (h.before.trans h.meanwhile).trans (World.grown_recordAll h.meanwhile.isTree events)

/-- The copies are all that is in the directory. -/
theorem mem_children_iff (h : Collection config env names l w ready copied w') {name : String}
    {e : Entry} : (name, e) ∈ w'.disk.children l ↔
      (∃ s ∈ (sourcesOf config env.root names).zipIdx, copyName s.2 s.1 = name)
        ∧ copied.disk.entryAt (l ++ [name]) = some e := by
  rw [Disk.mem_children_iff, h.entryAt]
  refine ⟨fun he => ⟨?_, he⟩, And.right⟩
  by_contra hname
  have hnone := (h.copies.other (l ++ [name]) fun s hs heq => hname ⟨s, hs, ?_⟩).1
  · rw [he, h.fresh.bare _ (below_child l name)] at hnone
    cases hnone
  · simpa using heq.symm

end Collection

/-- Settings with three repository files of one name, two of which are the same, and a disk with an
empty worker archive. -/
def baseConfig : ClonerConfig where
  outDir := ⟨"out"⟩
  rpmDir := ⟨"rpms"⟩
  toolchainDir := ⟨"rpms"⟩
  tmpDir := none
  workerArchive := ⟨"w.tgz"⟩
  repoFiles := [⟨"a/base.repo"⟩, ⟨"b/base.repo"⟩, ⟨"a/base.repo"⟩]
  usePreviewRepo := false
  disableDefaultRepos := true
  localOnly := false
  tls := none

end RpmProvision.Tdnf
