/-
What the cloner records of the RPMs that appear.

A call that gets a package records it, and with it every RPM that has appeared in the output
directory meanwhile. A call that fails records nothing, although its tool may have left RPMs behind;
for every later call these were there before.

* **`attempts`** — a run of calls, some of which may fail;
* **`mem_keys_attempts`** — what is recorded after a run of calls;
* **`all_recorded_iff`** — when every RPM that has appeared is recorded.
-/
import RpmProvision.Proofs.Step
import RpmProvision.Proofs.Tdnf.LocalRpms
import RpmProvision.Tdnf.Cloner

namespace RpmProvision.Tdnf

open Step

/-! ### A run of calls -/

/-- A call for a package: how it ended, and the disk before and after it. -/
structure Attempt where
  package : String
  result : Except Error Bool
  before : Disk
  after : Disk

namespace Attempt

/-- Whether the package was got. -/
def Succeeded (a : Attempt) : Prop := ∃ prebuilt, a.result = .ok prebuilt

/-- The RPM of a package has appeared in a directory during the call. -/
def Brings (a : Attempt) (dir : Path) (package : String) : Prop :=
  HasRpm dir a.after package ∧ ¬ HasRpm dir a.before package

end Attempt

/-- Call after call for packages, with or without what they depend on. -/
def attempts (tools : Tools) (env : Environment) :
    List (Bool × String) → Session Contents → List Attempt × Session Contents
  | [], s => ([], s)
  | (cloneDeps, package) :: rest, s =>
    match clonePackage tools env cloneDeps package s with
    | (result, s') =>
      match attempts tools env rest s' with
      | (more, final) => (⟨package, result, s.world.disk, s'.world.disk⟩ :: more, final)

/-! ### One call -/

/-- What was brought along is known in addition. -/
theorem mem_keys_addBroughtAlong {env : Environment} {names : List String} {known : Contents}
    {n : String} : n ∈ (addBroughtAlong env names known).keys ↔ n ∈ known.keys ∨ n ∈ names := by
  induction names generalizing known with
  | nil => simp [addBroughtAlong]
  | cons m rest ih =>
    rw [addBroughtAlong, List.foldl_cons, ← addBroughtAlong, ih, List.mem_cons]
    cases hm : known.contains m with
    | true =>
      rw [if_pos rfl]
      have hmem : m ∈ known.keys := SortedMap.contains_iff_mem_keys.mp hm
      constructor
      · rintro (h | h)
        · exact .inl h
        · exact .inr (.inr h)
      · rintro (h | rfl | h)
        · exact .inl h
        · exact .inl hmem
        · exact .inr h
    | false =>
      rw [if_neg (by decide), SortedMap.mem_keys_insert, or_assoc, or_left_comm]

/-- What holds of every package that is known and of those that were brought along holds of every
package that is known then. -/
theorem forall_addBroughtAlong {env : Environment} {P : String → FetchedPackage → Prop}
    {names : List String} (hnew : ∀ n ∈ names, P n (env.broughtAlong n)) {known : Contents}
    (h : ∀ n p, known.find? n = some p → P n p) :
    ∀ n p, (addBroughtAlong env names known).find? n = some p → P n p := by
  induction names generalizing known with
  | nil => exact h
  | cons m rest ih =>
    rw [addBroughtAlong, List.foldl_cons, ← addBroughtAlong]
    refine ih (fun n hn => hnew n (List.mem_cons_of_mem m hn)) ?_
    cases known.contains m with
    | true => exact h
    | false => exact SortedMap.forall_find?_insert h (hnew m List.mem_cons_self)

theorem mem_appeared {before after : SortedSet String} {package n : String} :
    n ∈ appeared before after package ↔ n ∈ after.keys ∧ n ∉ before.keys ∧ n ≠ package := by
  rw [appeared, List.mem_filter, Bool.and_eq_true, bne_iff_ne, Bool.not_eq_true',
    ← SortedMap.contains_iff_mem_keys, ← SortedMap.contains_iff_mem_keys (m := before),
    Bool.not_eq_true]

/-- Logging about several names adds to the log and does nothing else. -/
theorem forM_log_apply {τ ε : Type} (names : List String) (level : Level) (source : Source)
    (message : String → String) (s : Session τ) :
    ∃ events, (names.forM fun n => Session.log (ε := ε) level source (message n)) s
      = (.ok (), ⟨s.world.recordAll events, s.agent⟩) := by
  induction names generalizing s with
  | nil => exact ⟨[], rfl⟩
  | cons n rest ih =>
    obtain ⟨events, h⟩ := ih ⟨s.world.record ⟨level, source, message n⟩, s.agent⟩
    exact ⟨⟨level, source, message n⟩ :: events, h⟩

theorem look_apply {τ ε α : Type} (f : Disk → Except ε α) (s : Session τ) :
    Session.onWorld (World.look f) s = (f s.world.disk, s) := rfl

theorem onWorld_agent {τ ε α : Type} {x : Step World ε α} {s s' : Session τ} {r : Except ε α}
    (h : Session.onWorld x s = (r, s')) : s'.agent = s.agent := by
  rw [Session.onWorld, within_apply] at h
  cases h
  rfl

/-- What is recorded of a package and of what has appeared since a first look. -/
theorem record_eq_ok {env : Environment} {before : SortedSet String} {package : String}
    {prebuilt : Bool} {s s' : Session Contents}
    (h : record env before package prebuilt s = (.ok (), s')) :
    ∃ after, scan env.outDir s.world.disk = .ok after ∧ Disk.Alike s.world.disk s'.world.disk
      ∧ s'.agent = (addBroughtAlong env (appeared before after package) s.agent).insert package
        ⟨env.rpmPath package, prebuilt⟩ := by
  obtain ⟨after, s₁, hlook, hrest⟩ := bind_eq_ok.mp h
  rw [look_apply] at hlook
  obtain ⟨hscan, rfl⟩ := Prod.mk.inj hlook
  obtain ⟨_, s₂, hlog, hmodify⟩ := bind_eq_ok.mp hrest
  obtain ⟨events, hevents⟩ := forM_log_apply (ε := Error) (appeared before after package) .debug
    .cloner (fun name => s!"'{name}' was cloned as a dependency of '{package}'") s
  cases hevents.symm.trans hlog
  cases hmodify
  exact ⟨after, hscan, s.world.alike_recordAll events, rfl⟩

theorem record_eq_error {env : Environment} {before : SortedSet String} {package : String}
    {prebuilt : Bool} {s s' : Session Contents} {e : Error}
    (h : record env before package prebuilt s = (.error e, s')) : s'.agent = s.agent := by
  rcases bind_eq_error.mp h with hlook | ⟨after, s₁, hlook, hrest⟩
  · exact onWorld_agent hlook
  · -- only the look at the directory can fail
    obtain ⟨events, hevents⟩ := forM_log_apply (ε := Error) (appeared before after package) .debug
      .cloner (fun name => s!"'{name}' was cloned as a dependency of '{package}'") s₁
    rw [bind_apply, hevents] at hrest
    cases hrest

/-- A package that was obtained was at hand exactly if that is reported. -/
theorem obtain_eq_ok {tools : Tools} {env : Environment} {cloneDeps : Bool} {package : String}
    {w w' : World} {prebuilt : Bool}
    (h : obtain tools env cloneDeps package w = (.ok prebuilt, w')) :
    prebuilt = env.localRpms.contains package := by
  rw [SortedMap.contains]
  unfold obtain at h
  cases hfind : env.localRpms.find? package with
  | none =>
    rw [hfind] at h
    obtain ⟨_, _, _, hpure⟩ := bind_eq_ok.mp h
    cases hpure
    rfl
  | some source =>
    rw [hfind] at h
    obtain ⟨_, _, _, hrest⟩ := bind_eq_ok.mp h
    cases cloneDeps with
    | false =>
      cases hrest
      rfl
    | true =>
      obtain ⟨_, _, _, hpure⟩ := bind_eq_ok.mp hrest
      cases hpure
      rfl

/-- What a call that succeeds has recorded: what has appeared between two looks at the output
directory, as far as it was not known, and the package. -/
theorem agent_of_clonePackage {tools : Tools} {env : Environment} {cloneDeps : Bool}
    {package : String} {s s' : Session Contents} {prebuilt : Bool}
    (h : clonePackage tools env cloneDeps package s = (.ok prebuilt, s')) :
    prebuilt = env.localRpms.contains package ∧ ∃ before after : SortedSet String,
      (∀ n, n ∈ before.keys ↔ HasRpm env.outDir s.world.disk n)
      ∧ (∀ n, n ∈ after.keys ↔ HasRpm env.outDir s'.world.disk n)
      ∧ s'.agent = (addBroughtAlong env (appeared before after package) s.agent).insert package
        ⟨env.rpmPath package, prebuilt⟩ := by
  obtain ⟨before, s₁, hlook, hrest⟩ := bind_eq_ok.mp h
  rw [look_apply] at hlook
  obtain ⟨hbefore, rfl⟩ := Prod.mk.inj hlook
  obtain ⟨got, s₂, hobtain, hrest⟩ := bind_eq_ok.mp hrest
  obtain ⟨_, s₃, hrecord, hpure⟩ := bind_eq_ok.mp hrest
  cases hpure
  obtain ⟨after, hafter, halike, hagent⟩ := record_eq_ok hrecord
  refine ⟨?_, before, after, fun n => mem_scan_iff hbefore, fun n => ?_, ?_⟩
  · rw [Session.onWorld, within_apply] at hobtain
    exact obtain_eq_ok (Prod.ext (Prod.mk.inj hobtain).1 rfl)
  · -- what is logged after the second look leaves the directory as it was
    rw [mem_scan_iff hafter]
    exact ⟨fun hn => hn.alike halike, fun hn => hn.alike halike.symm⟩
  · rw [hagent, onWorld_agent hobtain]

/-- A call that succeeds records the package and every RPM that has appeared. -/
theorem clonePackage_eq_ok {tools : Tools} {env : Environment} {cloneDeps : Bool} {package : String}
    {s s' : Session Contents} {prebuilt : Bool}
    (h : clonePackage tools env cloneDeps package s = (.ok prebuilt, s')) {n : String} :
    n ∈ s'.agent.keys ↔ n ∈ s.agent.keys ∨ package = n
      ∨ HasRpm env.outDir s'.world.disk n ∧ ¬ HasRpm env.outDir s.world.disk n := by
  obtain ⟨-, before, after, hbefore, hafter, hagent⟩ := agent_of_clonePackage h
  rw [hagent, SortedMap.mem_keys_insert, mem_keys_addBroughtAlong, mem_appeared, hbefore, hafter]
  by_cases hn : package = n
  · simp [hn]
  · simp [hn, eq_comm]

/-- A call that fails records nothing. -/
theorem clonePackage_eq_error {tools : Tools} {env : Environment} {cloneDeps : Bool}
    {package : String} {s s' : Session Contents} {e : Error}
    (h : clonePackage tools env cloneDeps package s = (.error e, s')) : s'.agent = s.agent := by
  rcases bind_eq_error.mp h with hlook | ⟨before, s₁, hlook, hrest⟩
  · exact onWorld_agent hlook
  rw [← onWorld_agent hlook]
  rcases bind_eq_error.mp hrest with hobtain | ⟨got, s₂, hobtain, hrest⟩
  · exact onWorld_agent hobtain
  rw [← onWorld_agent hobtain]
  rcases bind_eq_error.mp hrest with hrecord | ⟨_, s₃, _, hpure⟩
  · exact record_eq_error hrecord
  · cases hpure

/-! ### A run of calls -/

/-- After a run of calls what was recorded at first, and what a call that succeeded was for or has
brought. -/
theorem mem_keys_attempts (tools : Tools) (env : Environment) (requests : List (Bool × String))
    (s : Session Contents) {n : String} :
    n ∈ (attempts tools env requests s).2.agent.keys ↔ n ∈ s.agent.keys
      ∨ ∃ a ∈ (attempts tools env requests s).1, a.Succeeded
        ∧ (a.package = n ∨ a.Brings env.outDir n) := by
  induction requests generalizing s with
  | nil => simp [attempts]
  | cons request rest ih =>
    obtain ⟨cloneDeps, package⟩ := request
    rw [attempts]
    rcases hcall : clonePackage tools env cloneDeps package s with ⟨e | prebuilt, s'⟩
    · dsimp only
      rw [ih s', clonePackage_eq_error hcall, List.exists_mem_cons_iff]
      have hfailed : ¬ (⟨package, .error e, s.world.disk, s'.world.disk⟩ : Attempt).Succeeded := by
        rintro ⟨prebuilt, h⟩
        cases h
      simp [hfailed]
    · dsimp only
      rw [ih s', clonePackage_eq_ok hcall, List.exists_mem_cons_iff, or_assoc]
      have hsucceeded : (⟨package, .ok prebuilt, s.world.disk, s'.world.disk⟩ : Attempt).Succeeded :=
        ⟨prebuilt, rfl⟩
      simp [hsucceeded, Attempt.Brings]

/-- An RPM that is there after a run of calls and was not there before has appeared during one of
them. -/
theorem exists_brings (tools : Tools) (env : Environment) (requests : List (Bool × String))
    (s : Session Contents) {dir : Path} {n : String}
    (hfinal : HasRpm dir (attempts tools env requests s).2.world.disk n)
    (hstart : ¬ HasRpm dir s.world.disk n) :
    ∃ a ∈ (attempts tools env requests s).1, a.Brings dir n := by
  induction requests generalizing s with
  | nil => exact absurd hfinal hstart
  | cons request rest ih =>
    obtain ⟨cloneDeps, package⟩ := request
    rw [attempts] at hfinal ⊢
    rcases hcall : clonePackage tools env cloneDeps package s with ⟨result, s'⟩
    rw [hcall] at hfinal
    dsimp only at hfinal ⊢
    -- the RPM is there after the first call, or it appears later
    by_cases hn : HasRpm dir s'.world.disk n
    · exact ⟨_, List.mem_cons_self, hn, hstart⟩
    · obtain ⟨a, ha, hbrings⟩ := ih s' hfinal hn
      exact ⟨a, List.mem_cons_of_mem _ ha, hbrings⟩

/-- After a run of calls of a new cloner, every RPM that is in the output directory and was not there
before the run is recorded exactly if what has appeared during failed calls was asked for by, or has
appeared again during, calls that succeeded. -/
theorem all_recorded_iff (tools : Tools) (env : Environment) (requests : List (Bool × String))
    (w : World) :
    (∀ n, HasRpm env.outDir (attempts tools env requests ⟨w, ∅⟩).2.world.disk n →
        ¬ HasRpm env.outDir w.disk n → n ∈ (attempts tools env requests ⟨w, ∅⟩).2.agent.keys)
      ↔ ∀ a ∈ (attempts tools env requests ⟨w, ∅⟩).1, ¬ a.Succeeded →
        ∀ n, a.Brings env.outDir n →
          HasRpm env.outDir (attempts tools env requests ⟨w, ∅⟩).2.world.disk n →
          ¬ HasRpm env.outDir w.disk n →
          ∃ b ∈ (attempts tools env requests ⟨w, ∅⟩).1, b.Succeeded
            ∧ (b.package = n ∨ b.Brings env.outDir n) := by
  have hkeys {n : String} := mem_keys_attempts tools env requests ⟨w, ∅⟩ (n := n)
  constructor
  · intro hall a _ _ n _ hfinal hstart
    rcases hkeys.mp (hall n hfinal hstart) with hnone | hsome
    · cases hnone
    · exact hsome
  · intro hcond n hfinal hstart
    rw [hkeys]
    right
    obtain ⟨a, ha, hbrings⟩ := exists_brings tools env requests ⟨w, ∅⟩ hfinal hstart
    -- a call that succeeded has recorded it, and for the others the condition helps
    by_cases hsucceeded : a.Succeeded
    · exact ⟨a, ha, hsucceeded, .inr hbrings⟩
    · exact hcond a ha hsucceeded n hbrings hfinal hstart

/-! ### An RPM that is left behind -/

/-- A tool that fails for `app` but leaves the RPM of `lib` behind, and that downloads everything
else as `tool`. -/
def strayTools : Tools := fun _ invocation d =>
  if invocation.args.contains "app" then some (⟨1, [], []⟩, d.put ["out", "lib.rpm"] (.file []))
  else some (⟨0, [], []⟩, d.put ["out", "tool.rpm"] (.file []))

/-- An environment with an output directory and no RPMs at hand. -/
def strayEnv : Environment where
  outDir := ⟨"/out"⟩
  root := ⟨"/scratch/worker"⟩
  reposDir := ⟨"/scratch/repos.d"⟩
  repositoryArgs := []
  localRpms := ∅

/-- A disk with an empty output directory. -/
def emptyOut : Disk := ⟨.ofList [(["out"], .directory)], [], ∅⟩

/-- The calls for `app` and for `tool`. -/
def strayRun : List Attempt × Session Contents :=
  attempts strayTools strayEnv [(false, "app"), (false, "tool")] ⟨.start emptyOut, ∅⟩

theorem file_put {d : Disk} {l l' : Location} {c c' : Bytes} (h : d.entryAt l = some (.file c)) :
    ∃ c'', (d.put l' (.file c')).entryAt l = some (.file c'') := by
  have hnil : l ≠ [] := by
    rintro rfl
    cases h
  rw [Disk.entryAt_of_ne_nil _ hnil] at h ⊢
  show ∃ c'', (d.entries.insert l' (.file c')).find? l = some (.file c'')
  by_cases heq : l = l'
  · exact ⟨c', by rw [heq, SortedMap.find?_insert_self]⟩
  · exact ⟨c, by rw [SortedMap.find?_insert_of_ne _ _ heq, h]⟩

/-- Not every RPM that appears is recorded, even if no file is ever deleted: the one that the failed
call for `app` left behind is not a key after the call for `tool`, which succeeded. -/
theorem not_all_recorded_strayRun :
    (∀ calls invocation d reply d', strayTools calls invocation d = some (reply, d') →
        ∀ l c, d.entryAt l = some (.file c) → ∃ c', d'.entryAt l = some (.file c'))
      ∧ strayRun.1.map (fun a => (a.package, a.result.toOption)) = [("app", none), ("tool", some false)]
      ∧ HasRpm strayEnv.outDir strayRun.2.world.disk "lib"
      ∧ ¬ HasRpm strayEnv.outDir emptyOut "lib"
      ∧ "lib" ∉ strayRun.2.agent.keys := by
  refine ⟨?_, rfl, ⟨["out"], "lib.rpm", [], rfl, rfl, rfl, rfl⟩, ?_, by decide⟩
  · intro calls invocation d reply d' h l c hfile
    unfold strayTools at h
    split_ifs at h <;> cases h <;> exact file_put hfile
  · rintro ⟨l, name, content, hfind, hentry, -⟩
    have hout : emptyOut.find ⟨"/out"⟩ = .ok (["out"], .directory) := rfl
    cases hout.symm.trans hfind
    have hmem := Disk.mem_children_iff.mpr hentry
    have hnone : emptyOut.children ["out"] = [] := rfl
    rw [hnone] at hmem
    cases hmem

end RpmProvision.Tdnf
