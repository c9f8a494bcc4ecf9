/-
How an environment is set up.

The settings are checked, the output directory and a scratch directory are made, the worker archive
is unpacked in the scratch directory, and a directory for repository files is made beside it. Then
repository files are copied, and it is decided which repositories are used and which RPMs are at
hand.

* **`prepare`** — what is done before repository files are copied;
* **`selectionArgs_eq_ok`** — the arguments about repositories, and what the files of them define;
* **`setUp_eq_ok`** — the environment that is set up, and the worlds on the way to it.
-/
import RpmProvision.Proofs.Disk
import RpmProvision.Proofs.Step
import RpmProvision.Proofs.World
import RpmProvision.Tdnf.Environment

namespace RpmProvision.Tdnf

open Step

/-- Unpack the worker archive in a new scratch directory, which is the result, and make a directory
for repository files there. -/
def prepare (config : ClonerConfig) : Step World Error Path := do
  (World.look fun d => config.validate d).mapError fun e => ⟨.clonerSetup, e.message⟩
  (World.onDisk (Disk.makeDirWithParents config.outDir)).mapError fun fault =>
    ⟨.clonerSetup, s!"cannot create '{config.outDir.text}': {fault.message}"⟩
  let scratch ← makeScratch config.tmpDir
  Archive.Worker.extract config.workerArchive (scratch.child "worker")
  (World.onDisk (Disk.makeDirWithParents (scratch.child "repos.d"))).mapError Error.ofIo
  pure scratch

/-- The file is a text that defines the repositories. -/
def Defines (d : Disk) (file : Path) (repositories : List Repository) : Prop :=
  ∃ text, d.readText file = .ok text ∧ RepoFile.parse text = .ok repositories

theorem load_eq_ok {file : Path} {repositories : List Repository} {w w' : World}
    (h : RepoFile.load file w = (.ok repositories, w')) :
    w' = w ∧ Defines w.disk file repositories := by
  obtain ⟨text, w₁, hlook, h⟩ := bind_eq_ok.mp h
  obtain ⟨hread, rfl⟩ := Prod.mk.inj (mapError_eq_ok hlook)
  obtain ⟨hparse, rfl⟩ := Prod.mk.inj h
  refine ⟨rfl, text, hread, ?_⟩
  cases hfile : RepoFile.parse text with
  | error fault =>
    rw [hfile] at hparse
    cases hparse
  | ok _ =>
    rw [hfile] at hparse
    cases hparse
    rfl

theorem Defines.unique {d : Disk} {file : Path} {rs rs' : List Repository} (h : Defines d file rs)
    (h' : Defines d file rs') : rs = rs' := by
  obtain ⟨text, hread, hparse⟩ := h
  obtain ⟨text', hread', hparse'⟩ := h'
  cases hread.symm.trans hread'
  exact Except.ok.inj (hparse.symm.trans hparse')

/-- The arguments about the repositories that files define, all of which can be read then. -/
theorem previewArgs_eq_ok {usePreview : Bool} {files : List Path} {args : List String} {w w' : World}
    (h : previewArgs usePreview files w = (.ok args, w')) :
    w' = w ∧ (∀ file ∈ files, ∃ rs, Defines w.disk file rs)
      ∧ ∀ arg, arg ∈ args ↔ ∃ file ∈ files, ∃ rs, Defines w.disk file rs
        ∧ ∃ r ∈ rs, previewArg? usePreview r = some arg := by
  induction files generalizing w args with
  | nil =>
    cases h
    exact ⟨rfl, by simp, by simp⟩
  | cons file rest ih =>
    obtain ⟨repositories, w₁, hload, hpreview⟩ := bind_eq_ok.mp h
    obtain ⟨rfl, hfile⟩ := load_eq_ok (mapError_eq_ok hload)
    obtain ⟨more, w₂, hmore, hpure⟩ := bind_eq_ok.mp hpreview
    cases hpure
    obtain ⟨rfl, hrest, hargs⟩ := ih hmore
    refine ⟨rfl, fun p hp => ?_, fun arg => ?_⟩
    · rcases List.mem_cons.mp hp with rfl | hp
      · exact ⟨repositories, hfile⟩
      · exact hrest p hp
    · rw [List.mem_append, hargs, List.mem_filterMap]
      constructor
      · rintro (⟨r, hr, harg⟩ | ⟨p, hp, hdefined⟩)
        · exact ⟨file, List.mem_cons_self, repositories, hfile, r, hr, harg⟩
        · exact ⟨p, List.mem_cons_of_mem _ hp, hdefined⟩
      · rintro ⟨p, hp, rs, hrs, hr⟩
        rcases List.mem_cons.mp hp with rfl | hp
        · rw [hrs.unique hfile] at hr
          exact .inl hr
        · exact .inr ⟨p, hp, rs, hrs, hr⟩

/-- The arguments that turn repositories on and off. -/
theorem selectionArgs_eq_ok {config : ClonerConfig} {files : List Path} {args : List String}
    {w w' : World} (h : selectionArgs config files w = (.ok args, w')) :
    (config.localOnly = true ∧ (∃ e, w' = w.recordAll [e]) ∧ args = [disableArg "*"])
      ∨ config.localOnly = false ∧ w' = w ∧ (∀ file ∈ files, ∃ rs, Defines w.disk file rs)
        ∧ ∀ arg, arg ∈ args ↔ ∃ file ∈ files, ∃ rs, Defines w.disk file rs
          ∧ ∃ r ∈ rs, previewArg? config.usePreviewRepo r = some arg := by
  rw [selectionArgs] at h
  cases hlocal : config.localOnly with
  | true =>
    rw [hlocal, if_pos rfl] at h
    obtain ⟨_, logged, hlog, hpure⟩ := bind_eq_ok.mp h
    cases hlog
    cases hpure
    exact .inl ⟨rfl, ⟨_, rfl⟩, rfl⟩
  | false =>
    rw [hlocal, if_neg (by decide)] at h
    exact .inr ⟨rfl, previewArgs_eq_ok h⟩

/-- An environment that was set up, and the worlds on the way to it. -/
theorem setUp_eq_ok {config : ClonerConfig} {env : Environment} {w w' : World}
    (h : setUp config w = (.ok env, w')) :
    ∃ scratch ready sources files copied selection selected e,
      prepare config w = (.ok scratch, ready)
      ∧ repoSources config (scratch.child "worker") ready.disk = .ok sources
      ∧ copyRepoFiles (scratch.child "repos.d") sources.zipIdx ready = (.ok files, copied)
      ∧ selectionArgs config files copied = (.ok selection, selected)
      ∧ env = {
          outDir := config.outDir
          root := scratch.child "worker"
          reposDir := scratch.child "repos.d"
          repositoryArgs := repositoryArgs config selection selected.disk
          localRpms := index selected.disk [config.rpmDir, config.toolchainDir] }
      ∧ w' = selected.record e := by
  obtain ⟨_, w₁, hvalid, h⟩ := bind_eq_ok.mp h
  obtain ⟨_, w₂, hout, h⟩ := bind_eq_ok.mp h
  obtain ⟨scratch, w₃, hscratch, h⟩ := bind_eq_ok.mp h
  have hin : setUpIn config scratch w₃ = (.ok env, w') := by
    rw [onError_apply] at h
    rcases hrun : setUpIn config scratch w₃ with ⟨e | env', w''⟩
    · rw [hrun] at h
      cases h
    · rw [hrun] at h
      exact h
  obtain ⟨_, unpacked, hextract, hin⟩ := bind_eq_ok.mp hin
  obtain ⟨_, ready, hmake, hin⟩ := bind_eq_ok.mp hin
  obtain ⟨sources, w₅, hlook, hin⟩ := bind_eq_ok.mp hin
  obtain ⟨hsources, rfl⟩ := Prod.mk.inj (mapError_eq_ok hlook)
  obtain ⟨files, copied, hfiles, hin⟩ := bind_eq_ok.mp hin
  obtain ⟨selection, selected, hselection, hin⟩ := bind_eq_ok.mp hin
  obtain ⟨args, w₆, hargs, hin⟩ := bind_eq_ok.mp hin
  cases hargs
  obtain ⟨rpms, w₇, hrpms, hin⟩ := bind_eq_ok.mp hin
  cases hrpms
  obtain ⟨_, w₈, hlog, hin⟩ := bind_eq_ok.mp hin
  cases hlog
  cases hin
  refine ⟨scratch, _, sources, files, copied, selection, _, _, ?_, hsources, hfiles, hselection, rfl,
    rfl⟩
  refine bind_eq_ok.mpr ⟨_, w₁, hvalid, bind_eq_ok.mpr ⟨_, w₂, hout, ?_⟩⟩
  refine bind_eq_ok.mpr ⟨scratch, w₃, hscratch, bind_eq_ok.mpr ⟨_, unpacked, hextract, ?_⟩⟩
  exact bind_eq_ok.mpr ⟨_, _, hmake, rfl⟩

/-- The RPMs at hand of an environment that was set up are those of an index. Since then nothing has
changed on the disk but what a file holds. -/
theorem localRpms_of_setUp {config : ClonerConfig} {env : Environment} {w w' : World}
    (h : setUp config w = (.ok env, w')) :
    ∃ d, Disk.Alike d w'.disk ∧ env.localRpms = index d [config.rpmDir, config.toolchainDir] := by
  obtain ⟨_, _, _, _, _, _, selected, e, -, -, -, -, rfl, rfl⟩ := setUp_eq_ok h
  exact ⟨selected.disk, selected.alike_record e, rfl⟩

end RpmProvision.Tdnf
