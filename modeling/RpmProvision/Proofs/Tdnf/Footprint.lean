/-
What the cloner itself writes.

Apart from its log, and from what the tool does that it calls, the cloner changes a disk in one way: it
copies RPMs at hand. Whatever the packages are called that it is asked for, such a copy goes to a file
right in the output directory that is named for a package of its index. Only a link that stands there
already could lead it elsewhere.

* **`NoLinks`**, **`WritesRpm`** — what a directory has to be like, and what is written into it;
* **`Deed`**, **`Deeds`** — everything that happens to a world, one thing after another;
* **`Deeds.untouched`** — what deeds leave alone;
* **`deeds_of_acts`** — whatever a cloner does consists of deeds;
* **`deeds_of_setUp`** — the operations of a cloner consist of deeds.
-/
import Mathlib.Logic.Relation
import RpmProvision.Proofs.Disk.Copying
import RpmProvision.Proofs.Tdnf.Acts
import RpmProvision.Proofs.Tdnf.Delivery

namespace RpmProvision.Tdnf

open Step

/-- Nothing right in the directory is a link. -/
def NoLinks (dir : Path) (d : Disk) : Prop :=
  ∀ l name target, d.Leads dir l .directory → d.entryAt (l ++ [name]) ≠ some (.link target)

/-- The second disk is the first one but for the RPM of a package, which is a file right in the
directory now. -/
def WritesRpm (dir : Path) (package : String) (d d' : Disk) : Prop :=
  ∃ l content, d.Leads dir l .directory
    ∧ d'.entryAt (l ++ [package ++ ".rpm"]) = some (.file content)
    ∧ d'.workingDir = d.workingDir ∧ ∀ l', l' ≠ l ++ [package ++ ".rpm"] → Disk.Untouched l' d d'

/-- One thing that happens to a world: an event is logged, the tool is called, or the RPM of a package
of the index is written. -/
inductive Deed (tools : Tools) (env : Environment) (w : World) : World → Prop
  | logs (e : Event) : Deed tools env w (w.record e)
  | calls (args : List String) : Deed tools env w (World.spawn tools "tdnf" args w).2
  | writes {package : String} {d : Disk} (hindex : env.localRpms.contains package)
      (hwrites : NoLinks env.outDir w.disk → WritesRpm env.outDir package w.disk d) :
      Deed tools env w { w with disk := d }

/-- One thing after another has happened to a world. -/
def Deeds (tools : Tools) (env : Environment) : World → World → Prop :=
  Relation.ReflTransGen (Deed tools env)

/-- A copy to a name right in a directory without links touches nothing else. -/
theorem writesRpm_of_copy {dir source : Path} {package : String} {d d' : Disk}
    (hname : Path.IsName (package ++ ".rpm")) (hlinks : NoLinks dir d)
    (h : Disk.copy source (rpmPath package dir) d = (.ok (), d')) : WritesRpm dir package d d' := by
  obtain ⟨origin, c, place, -, hw, hfile, hworking, hother⟩ := Disk.copied_of_eq_ok h
  obtain ⟨e, hresolve, -, -⟩ := Disk.writable_eq_ok_iff.mp hw
  obtain ⟨-, l, hleads, -, rfl, -⟩ := (Disk.resolve_child_iff hname
    fun _ l target hl => hlinks l _ target hl).mp hresolve
  exact ⟨l, _, hleads, hfile, hworking, hother⟩

variable {tools : Tools} {env : Environment} {w₀ : World}

theorem logFile_spawn (program : String) (args : List String) (w : World) :
    (World.spawn tools program args w).2.logFile = w.logFile := by
  rcases World.spawn_cases tools program args w with ⟨fault, hspawn⟩ | ⟨reply, d, -, hspawn⟩
  · rw [hspawn]
  · rw [hspawn]

/-- Deeds leave alone what is neither the log nor an RPM of the index right in the output directory, as
long as no call changes it and there is never a link in the output directory. -/
theorem Deeds.untouched {l : Location} {w : World} (h : Deeds tools env w₀ w)
    (hlog : ∀ f, w₀.logFile = some f → f.location ≠ l)
    (hcalls : ∀ v args, Deeds tools env w₀ v →
      Disk.Untouched l v.disk (World.spawn tools "tdnf" args v).2.disk)
    (hlinks : ∀ v, Deeds tools env w₀ v → NoLinks env.outDir v.disk)
    (hother : ∀ v top package, Deeds tools env w₀ v → v.disk.Leads env.outDir top .directory →
      env.localRpms.contains package → l ≠ top ++ [package ++ ".rpm"]) :
    Disk.Untouched l w₀.disk w.disk := by
  -- the log goes on in its file, so that stays another one
  suffices hboth : Disk.Untouched l w₀.disk w.disk ∧ ∀ f, w.logFile = some f → f.location ≠ l from
    hboth.1
  induction h with
  | refl => exact ⟨.refl l w₀.disk, hlog⟩
  | @tail v _ hv hdeed ih =>
    obtain ⟨huntouched, hlog⟩ := ih
    cases hdeed with
    | logs e =>
      refine ⟨huntouched.trans (World.untouched_record hlog e), fun f hf => ?_⟩
      obtain ⟨f₀, hf₀, hsame⟩ := World.logFile_record hf
      rw [hsame]
      exact hlog f₀ hf₀
    | calls args =>
      refine ⟨huntouched.trans (hcalls v args hv), ?_⟩
      rw [logFile_spawn]
      exact hlog
    | writes hindex hwrites =>
      obtain ⟨top, _, hleads, -, -, helse⟩ := hwrites (hlinks v hv)
      exact ⟨huntouched.trans (helse l (hother v top _ hv hleads hindex)), hlog⟩

/-- An RPM at hand is copied right into the directory, as the name of a package of the index stays
within it. -/
theorem deeds_of_acts (hindex : ∀ package source, env.localRpms.find? package = some source →
    '/' ∉ package.toList) {w : World} (h : Acts tools env w₀ w) : Deeds tools env w₀ w := by
  induction h with
  | refl => exact .refl
  | @tail v _ _ hact ih =>
    cases hact with
    | logs e => exact ih.tail (.logs e)
    | calls hsub rest => exact ih.tail (.calls _)
    | @copies package source hfind =>
      rcases hcopy : Disk.copy source (env.rpmPath package) v.disk with ⟨fault | _, d⟩
      · rw [Disk.copy_eq_error hcopy]
        exact ih
      · have hcontains : env.localRpms.contains package := by
          rw [SortedMap.contains, hfind]
          rfl
        have hname := Path.isName_rpm (hindex package source hfind)
        exact ih.tail (.writes hcontains fun hlinks => writesRpm_of_copy hname hlinks hcopy)

/-- Looking for providers, getting a package and restoring a summary consist of deeds of the cloner,
whatever the names are, and whether the operation succeeds or fails. -/
theorem deeds_of_setUp {config : ClonerConfig} {w w' : World} (hnew : setUp config w = (.ok env, w'))
    (tools : Tools) (s : Session Contents) :
    (∀ r, Deeds tools env s.world ((cloner tools env).whatProvides r s).2.world)
      ∧ (∀ cloneDeps package,
          Deeds tools env s.world ((cloner tools env).clonePackage cloneDeps package s).2.world)
      ∧ ∀ summary, Deeds tools env s.world ((cloner tools env).restore summary s).2.world := by
  have hindex : ∀ package source, env.localRpms.find? package = some source →
      '/' ∉ package.toList := by
    intro package source hfind
    obtain ⟨d, -, hlocal⟩ := localRpms_of_setUp hnew
    rw [hlocal] at hfind
    exact no_slash_of_find?_index hfind
  refine ⟨fun r => ?_, fun cloneDeps package => ?_, fun summary => ?_⟩
  · exact deeds_of_acts hindex ((acts_onWorld (acts_whatProvides r)).of_run s .refl)
  · exact deeds_of_acts hindex ((acts_clonePackage cloneDeps package).of_run s .refl)
  · exact deeds_of_acts hindex ((acts_restore summary).of_run s .refl)

/-- Names that lead out of the directory are downloaded, and only the RPM at hand is copied. -/
theorem deeds_rpmsDisk :
    ∃ env w s, setUp (rpmsConfig "out") (.start rpmsDisk) = (.ok env, w)
      ∧ clonePackage noTools env false "zlib" ⟨w, ∅⟩ = (.ok true, s)
      ∧ s.world.disk.find ⟨"out/zlib.rpm"⟩ = .ok (["out", "zlib.rpm"], .file [1, 2, 3])
      ∧ Deeds noTools env w s.world
      ∧ Deeds noTools env w (clonePackage noTools env true "../rpms/zlib" ⟨w, ∅⟩).2.world
      ∧ Deeds noTools env w (restore noTools env
          ⟨1, .ofList [("/rpms/zlib", ⟨⟨"/"⟩, true⟩), ("zlib", ⟨⟨".."⟩, true⟩)]⟩ ⟨w, ∅⟩).2.world := by
  have hcheck : (delivery "out").any (fun (_, _, s) =>
      s.world.disk.find ⟨"out/zlib.rpm"⟩ = .ok (["out", "zlib.rpm"], .file [1, 2, 3])) = true := by
    decide +kernel
  obtain ⟨⟨env, w, s⟩, hrun, hfile⟩ := Option.any_eq_true _ _ |>.mp hcheck
  obtain ⟨hnew, hclone⟩ := of_delivery hrun
  obtain ⟨-, hgets, hrestores⟩ := deeds_of_setUp hnew noTools ⟨w, ∅⟩
  have hgot := hgets false "zlib"
  rw [show (cloner noTools env).clonePackage false "zlib" ⟨w, ∅⟩ = (.ok true, s) from hclone] at hgot
  exact ⟨env, w, s, hnew, hclone, of_decide_eq_true hfile, hgot, hgets true _, hrestores _⟩

end RpmProvision.Tdnf
