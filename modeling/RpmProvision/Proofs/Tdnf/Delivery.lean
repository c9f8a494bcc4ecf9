/-
Whether an RPM at hand is delivered intact.

An RPM at hand is copied into the output directory, unless its path is the one that it is to have
there. One file can have many paths, though. Where the two paths differ and lead to the same file,
the file is copied onto itself and ends up empty.

* **`copied_intact_iff`** — when a copied RPM holds what it held;
* **`world_of_clonePackage_alone`** — getting an RPM at hand alone copies it, or does nothing;
* **`delivered_iff`** — the same for a call of the cloner;
* **`emptied_under_two_names`** — a configuration with which an RPM is lost.
-/
import RpmProvision.Proofs.Disk.Copying
import RpmProvision.Proofs.Disk.Spelling
import RpmProvision.Proofs.Growth
import RpmProvision.Proofs.Tdnf.SetUp
import RpmProvision.Proofs.Tdnf.Sparing

namespace RpmProvision

namespace Tdnf

open Step

variable {tools : Tools} {env : Environment}

/-- A copy leaves source and target with what the source held exactly if the target did not lead to
the source before, or if there was nothing to lose. -/
theorem copied_intact_iff {d d' : Disk} (htree : d.IsTree) {source target : Path} {l : Location}
    {c : Bytes} (hsource : d.Leads source l (.file c))
    (h : Disk.copy source target d = (.ok (), d')) :
    ∃ l' c', d'.Leads source l (.file c') ∧ d'.Leads target l' (.file c')
      ∧ (c' = c ↔ c = [] ∨ ¬ d.Leads target l (.file c)) := by
  obtain ⟨-, hretains, origin, c₀, l', hleads, hw, hcopy, huntouched⟩ := htree.copied h
  obtain ⟨rfl, heq⟩ := hsource.unique hleads
  cases heq
  -- the target led to the source before exactly if the copy was put there
  have hsame : d.Leads target l (.file c) ↔ l = l' := by
    constructor
    · intro htarget
      obtain ⟨c₁, hc₁⟩ := hretains.file hsource.entryAt
      exact ((htarget.of_retains hretains hc₁ (by simp)).unique hcopy).1
    · rintro rfl
      obtain ⟨hp, e, hwalk, -⟩ := Disk.walk_of_writable hw
      exact Disk.leads_of_find ((Disk.Retains.refl d).find_of_writable hw hsource.entryAt)
  have hentry : d'.entryAt l = some (.file (if l = l' then [] else c)) := by
    by_cases hl : l = l'
    · rw [hl, hcopy.entryAt, hl]
    · rw [(huntouched l hl).1, if_neg hl, hsource.entryAt]
  refine ⟨l', _, hsource.of_retains hretains hentry (by simp), hcopy, ?_⟩
  rw [hsame]
  by_cases hl : l = l'
  · simp [hl, eq_comm]
  · simp [hl]

/-- What is recorded of a package is logged, and nothing else happens to the world. -/
theorem world_of_record {before : SortedSet String} {package : String} {prebuilt : Bool}
    {s s' : Session Contents} (h : record env before package prebuilt s = (.ok (), s')) :
    ∃ events, s'.world = s.world.recordAll events := by
  obtain ⟨after, s₁, hlook, h⟩ := bind_eq_ok.mp h
  obtain ⟨-, rfl⟩ := Prod.mk.inj ((look_apply _ _).symm.trans hlook)
  obtain ⟨_, s₂, hlog, hmodify⟩ := bind_eq_ok.mp h
  obtain ⟨events, hevents⟩ := forM_log_apply (ε := Error) (appeared before after package) .debug
    .cloner (fun name => s!"'{name}' was cloned as a dependency of '{package}'") s
  cases hevents.symm.trans hlog
  cases hmodify
  exact ⟨events, rfl⟩

/-- What happens to the world when a package at hand is got alone: its RPM is copied, unless its path
is the same, and then only the log goes on. -/
theorem world_of_clonePackage_alone {package : String} {source : Path}
    (hlocal : env.localRpms.find? package = some source) {s s' : Session Contents} {prebuilt : Bool}
    (h : clonePackage tools env false package s = (.ok prebuilt, s')) :
    ∃ d events, s'.world = ({ s.world with disk := d } : World).recordAll events
      ∧ (source.sameAs (env.rpmPath package) ∧ d = s.world.disk
        ∨ ¬ source.sameAs (env.rpmPath package)
          ∧ Disk.copy source (env.rpmPath package) s.world.disk = (.ok (), d)) := by
  obtain ⟨before, s₁, hlook, h⟩ := bind_eq_ok.mp h
  obtain ⟨-, rfl⟩ := Prod.mk.inj ((look_apply _ _).symm.trans hlook)
  obtain ⟨got, s₂, hgot, h⟩ := bind_eq_ok.mp h
  obtain ⟨_, s₃, hrecord, hpure⟩ := bind_eq_ok.mp h
  cases hpure
  obtain ⟨events, hevents⟩ := world_of_record hrecord
  rcases hobtain : obtain tools env false package s.world with ⟨r, w⟩
  cases hgot.symm.trans (Session.onWorld_apply hobtain)
  rw [hevents]
  rw [obtain, hlocal] at hobtain
  obtain ⟨_, w₁, hcopy, hpure⟩ := bind_eq_ok.mp hobtain
  cases hpure
  rw [copyLocal] at hcopy
  by_cases hsame : source.sameAs (env.rpmPath package) = true
  · rw [if_pos hsame] at hcopy
    cases hcopy
    exact ⟨s.world.disk, events, rfl, .inl ⟨hsame, rfl⟩⟩
  · rw [if_neg hsame] at hcopy
    obtain ⟨d, hd, rfl⟩ := World.onDisk_eq_ok (mapError_eq_ok hcopy)
    exact ⟨d, events, rfl, .inr ⟨hsame, hd⟩⟩

/-- A package at hand that was got alone: its RPM in the output directory and the RPM at hand hold
what the RPM at hand held before exactly if both have the same path, or different paths that did not
lead to one file before, or if there was nothing to lose. -/
theorem delivered_iff {config : ClonerConfig} {w₀ w₁ : World}
    (hnew : setUp config w₀ = (.ok env, w₁)) {package : String} {source : Path}
    (hlocal : env.localRpms.find? package = some source) {s s' : Session Contents}
    (htree : s.world.disk.IsTree) {l : Location} {c : Bytes}
    (hsource : s.world.disk.Leads source l (.file c))
    (hclone : clonePackage tools env false package s = (.ok true, s'))
    (hlogsource : ¬ s'.world.LogsTo source) (hlogdest : ¬ s'.world.LogsTo (env.rpmPath package)) :
    (s'.world.disk.Holds (env.rpmPath package) c ∧ s'.world.disk.Holds source c)
      ↔ c = [] ∨ source.sameAs (env.rpmPath package)
        ∨ ¬ s.world.disk.Leads (env.rpmPath package) l (.file c) := by
  obtain ⟨d, events, hworld, ⟨hsame, rfl⟩ | ⟨hother, hcopy⟩⟩ :=
    world_of_clonePackage_alone hlocal hclone
  · -- both paths lead to the file, and it stays as it is
    rw [hworld] at hlogsource hlogdest ⊢
    obtain ⟨_, -, hindex⟩ := localRpms_of_setUp hnew
    rw [hindex] at hlocal
    have hrpm := Path.isName_rpm (no_slash_of_find?_index hlocal)
    have hdest := hsource.of_sameAs hsame (.names_child env.outDir hrpm)
    refine iff_of_true ⟨⟨l, ?_⟩, ⟨l, ?_⟩⟩ (.inr (.inl hsame))
    · exact World.leads_recordAll hdest events hlogdest
    · exact World.leads_recordAll hsource events hlogsource
  · rw [hworld] at hlogsource hlogdest ⊢
    obtain ⟨l', c', hleft, hput, hiff⟩ := copied_intact_iff htree hsource hcopy
    have hdest := World.leads_recordAll (w := { s.world with disk := d }) hput events hlogdest
    have hkept := World.leads_recordAll (w := { s.world with disk := d }) hleft events hlogsource
    rw [or_iff_right hother, ← hiff]
    constructor
    · rintro ⟨-, l₁, h₁⟩
      cases (h₁.unique hkept).2
      rfl
    · rintro rfl
      exact ⟨⟨l', hdest⟩, ⟨l, hkept⟩⟩

/-! ### A directory under two names -/

/-- Settings with the RPMs at hand in `rpms` and an output directory. -/
def rpmsConfig (out : String) : ClonerConfig where
  outDir := ⟨out⟩
  rpmDir := ⟨"rpms"⟩
  toolchainDir := ⟨"tc"⟩
  tmpDir := none
  workerArchive := ⟨"w.tgz"⟩
  repoFiles := [⟨"base.repo"⟩]
  usePreviewRepo := false
  disableDefaultRepos := false
  localOnly := false
  tls := none

/-- A disk with one RPM at hand and an empty worker archive. -/
def rpmsDisk : Disk :=
  ⟨.ofList [(["tmp"], .directory), (["base.repo"], .file []), (["rpms"], .directory),
    (["rpms", "zlib.rpm"], .file [1, 2, 3]), (["tc"], .directory),
    (["w.tgz"], .file (Archive.Gzip.pack []))], [], ∅⟩

/-- No tools at all. -/
def noTools : Tools := fun _ _ _ => none

/-- The cloner is set up and gets the RPM at hand, if that succeeds: the environment, the world before
and the session after. -/
def delivery (out : String) : Option (Environment × World × Session Contents) :=
  match setUp (rpmsConfig out) (.start rpmsDisk) with
  | (.ok env, w) =>
    match clonePackage noTools env false "zlib" ⟨w, ∅⟩ with
    | (.ok true, s) => some (env, w, s)
    | _ => none
  | _ => none

theorem of_delivery {out : String} {w : World} {s : Session Contents}
    (h : delivery out = some (env, w, s)) :
    setUp (rpmsConfig out) (.start rpmsDisk) = (.ok env, w)
      ∧ clonePackage noTools env false "zlib" ⟨w, ∅⟩ = (.ok true, s) := by
  unfold delivery at h
  split at h
  next env' w' hnew =>
    split at h
    next s' hclone =>
      cases h
      exact ⟨hnew, hclone⟩
    next => cases h
  next => cases h

/-- With an output directory of its own the RPM is delivered. -/
theorem delivered_apart :
    ∃ env w s, setUp (rpmsConfig "out") (.start rpmsDisk) = (.ok env, w)
      ∧ clonePackage noTools env false "zlib" ⟨w, ∅⟩ = (.ok true, s)
      ∧ w.disk.find ⟨"rpms/zlib.rpm"⟩ = .ok (["rpms", "zlib.rpm"], .file [1, 2, 3])
      ∧ s.world.disk.Holds (env.rpmPath "zlib") [1, 2, 3]
      ∧ s.world.disk.Holds ⟨"rpms/zlib.rpm"⟩ [1, 2, 3] := by
  have hcheck : (delivery "out").any (fun (env, w, s) =>
      env.localRpms.find? "zlib" = some ⟨"rpms/zlib.rpm"⟩ ∧ w.disk.IsTree ∧ s.world.logFile.isNone
        ∧ w.disk.find ⟨"rpms/zlib.rpm"⟩ = .ok (["rpms", "zlib.rpm"], .file [1, 2, 3])
        ∧ ¬ w.disk.Leads (env.rpmPath "zlib") ["rpms", "zlib.rpm"] (.file [1, 2, 3])) = true := by
    decide +kernel
  obtain ⟨⟨env, w, s⟩, hrun, hfacts⟩ := Option.any_eq_true _ _ |>.mp hcheck
  obtain ⟨hlocal, htree, hlog, hfind, hother⟩ := of_decide_eq_true hfacts
  obtain ⟨hnew, hclone⟩ := of_delivery hrun
  have hsilent (p : Path) : ¬ s.world.LogsTo p := by
    rintro ⟨f, e, hf, -⟩
    rw [hf] at hlog
    cases hlog
  obtain ⟨hdest, hsource⟩ := (delivered_iff hnew hlocal htree (Disk.leads_of_find hfind) hclone
    (hsilent _) (hsilent _)).mpr (.inr (.inr hother))
  exact ⟨env, w, s, hnew, hclone, hfind, hdest, hsource⟩

/-- An accepted configuration that names the directory of the RPMs at hand in another way as the
output directory: the RPM is reported as delivered, and is empty under both names. -/
theorem emptied_under_two_names :
    ∃ env w s, setUp (rpmsConfig "./rpms") (.start rpmsDisk) = (.ok env, w)
      ∧ env.localRpms.find? "zlib" = some ⟨"rpms/zlib.rpm"⟩
      ∧ w.disk.find ⟨"rpms/zlib.rpm"⟩ = .ok (["rpms", "zlib.rpm"], .file [1, 2, 3])
      ∧ clonePackage noTools env false "zlib" ⟨w, ∅⟩ = (.ok true, s)
      ∧ s.world.disk.find (env.rpmPath "zlib") = .ok (["rpms", "zlib.rpm"], .file [])
      ∧ s.world.disk.find ⟨"rpms/zlib.rpm"⟩ = .ok (["rpms", "zlib.rpm"], .file []) := by
  have hcheck : (delivery "./rpms").any (fun (env, w, s) =>
      env.localRpms.find? "zlib" = some ⟨"rpms/zlib.rpm"⟩
        ∧ w.disk.find ⟨"rpms/zlib.rpm"⟩ = .ok (["rpms", "zlib.rpm"], .file [1, 2, 3])
        ∧ s.world.disk.find (env.rpmPath "zlib") = .ok (["rpms", "zlib.rpm"], .file [])
        ∧ s.world.disk.find ⟨"rpms/zlib.rpm"⟩ = .ok (["rpms", "zlib.rpm"], .file [])) = true := by
    decide +kernel
  obtain ⟨⟨env, w, s⟩, hrun, hfacts⟩ := Option.any_eq_true _ _ |>.mp hcheck
  obtain ⟨hlocal, hbefore, hdest, hsource⟩ := of_decide_eq_true hfacts
  obtain ⟨hnew, hclone⟩ := of_delivery hrun
  exact ⟨env, w, s, hnew, hlocal, hbefore, hclone, hdest, hsource⟩

end Tdnf

end RpmProvision
