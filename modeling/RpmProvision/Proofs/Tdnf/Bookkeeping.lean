/-
What a cloner has recorded after calls for packages.

A package is recorded when it is asked for, and when its RPM appears while another package is got. The
first overwrites what was recorded before and takes the flag from how the package was got; the second
never overwrites anything and takes the flag from the RPMs at hand. Both come to the same, whichever of
them is first, so nothing that was recorded ever changes.

* **`Cloned`** — what a new cloner may have recorded after some calls;
* **`Booked`** — every package is recorded as it would be if it were brought along;
* **`Booked.clonePackage`** — a call keeps this;
* **`booked_of_cloned`** — what is recorded after any calls, and what one more call does to it.
-/
import RpmProvision.Proofs.Tdnf.Agreement

namespace RpmProvision.Tdnf

variable {env : Environment}

/-- What a new cloner of an environment may have recorded after some calls for packages, each in any
world and with any tools, and whether or not it failed. -/
inductive Cloned (env : Environment) : Contents → Prop where
  | new : Cloned env ∅
  | call {c : Contents} (tools : Tools) (cloneDeps : Bool) (package : String) (w : World) :
      Cloned env c → Cloned env (clonePackage tools env cloneDeps package ⟨w, c⟩).2.agent

/-- Every package is recorded as it is when it is brought along. -/
def Booked (env : Environment) (c : Contents) : Prop :=
  ∀ n p, c.find? n = some p → p = env.broughtAlong n

theorem booked_empty (env : Environment) : Booked env ∅ := fun _ _ h => nomatch h

/-- A call keeps the books, however it ends. -/
theorem Booked.clonePackage {c : Contents} (h : Booked env c) (tools : Tools) (cloneDeps : Bool)
    (package : String) (w : World) :
    Booked env (clonePackage tools env cloneDeps package ⟨w, c⟩).2.agent := by
  rcases hcall : Tdnf.clonePackage tools env cloneDeps package ⟨w, c⟩ with ⟨e | prebuilt, s⟩
  · rw [clonePackage_eq_error hcall]
    exact h
  · obtain ⟨hprebuilt, before, after, -, -, hagent⟩ := agent_of_clonePackage hcall
    have hself : (⟨env.rpmPath package, prebuilt⟩ : FetchedPackage) = env.broughtAlong package := by
      rw [hprebuilt]
      rfl
    intro n p hp
    rw [hagent] at hp
    have hbrought : Booked env (addBroughtAlong env (appeared before after package) c) :=
      forall_addBroughtAlong (P := fun n p => p = env.broughtAlong n) (fun _ _ => rfl) h
    exact SortedMap.forall_find?_insert hbrought hself n p hp

theorem booked_of_calls {c : Contents} (h : Cloned env c) : Booked env c := by
  induction h with
  | new => exact booked_empty env
  | call tools cloneDeps package w _ ih => exact ih.clonePackage tools cloneDeps package w

/-- After any calls of a new cloner every package is recorded with the place where its RPM is put, and
as pre-built exactly if it is at hand. A further call that succeeds reports the flag that it records
for its package. It adds the package and those whose RPMs are in the output directory after it and
were not there before it, and nothing that was recorded changes. A further call that fails changes
nothing at all. -/
theorem booked_of_cloned {c : Contents} (h : Cloned env c) :
    (∀ n p, c.find? n = some p →
        p.rpmPath = env.outDir.join ⟨n ++ ".rpm"⟩ ∧ (p.prebuilt ↔ env.localRpms.contains n))
      ∧ ∀ tools cloneDeps package w,
        (∀ prebuilt s, clonePackage tools env cloneDeps package ⟨w, c⟩ = (.ok prebuilt, s) →
            s.agent.find? package = some ⟨env.outDir.join ⟨package ++ ".rpm"⟩, prebuilt⟩
            ∧ (prebuilt ↔ env.localRpms.contains package)
            ∧ (∀ n, n ∈ s.agent.keys ↔ n ∈ c.keys ∨ n = package
              ∨ HasRpm env.outDir s.world.disk n ∧ ¬ HasRpm env.outDir w.disk n)
            ∧ ∀ n p, c.find? n = some p → s.agent.find? n = some p)
        ∧ ∀ e s, clonePackage tools env cloneDeps package ⟨w, c⟩ = (.error e, s) → s.agent = c := by
  have hbooked : Booked env c := booked_of_calls h
  refine ⟨fun n p hp => ?_, fun tools cloneDeps package w => ⟨fun prebuilt s hcall => ?_, ?_⟩⟩
  · rw [hbooked n p hp]
    exact ⟨rfl, Iff.rfl⟩
  · obtain ⟨hself, -⟩ := find?_of_clonePackage hcall
    refine ⟨hself, ?_, fun n => ?_, fun n p hp => ?_⟩
    · obtain ⟨hprebuilt, -⟩ := agent_of_clonePackage hcall
      rw [hprebuilt]
    · have hkeys := clonePackage_eq_ok hcall (n := n)
      rwa [eq_comm (a := package)] at hkeys
    · -- what is recorded under a name is known from the name, before the call and after it
      have hafter : Booked env s.agent := by
        have hkept := hbooked.clonePackage tools cloneDeps package w
        rwa [hcall] at hkept
      have hmem : n ∈ s.agent.keys :=
        (clonePackage_eq_ok hcall).mpr (.inl (SortedMap.mem_keys_iff.mpr ⟨p, hp⟩))
      obtain ⟨p', hp'⟩ := SortedMap.mem_keys_iff.mp hmem
      rw [hp', hafter n p' hp', hbooked n p hp]
  · intro e s hcall
    exact clonePackage_eq_error hcall

/-- An environment with the RPM of zlib at hand. -/
def handEnv : Environment where
  outDir := ⟨"/out"⟩
  root := ⟨"/scratch/worker"⟩
  reposDir := ⟨"/scratch/repos.d"⟩
  repositoryArgs := []
  localRpms := .ofList [("zlib-1.0-1.x", ⟨"/rpms/zlib-1.0-1.x.rpm"⟩)]

/-- A disk with an empty output directory and the RPM at hand. -/
def handDisk : Disk :=
  ⟨.ofList [(["out"], .directory), (["rpms"], .directory),
    (["rpms", "zlib-1.0-1.x.rpm"], .file [])], [], ∅⟩

/-- A tool that brings the RPM along with that of an application. -/
def closureTools : Tools := fun _ _ d =>
  some (⟨0, [], []⟩, (d.put ["out", "app-1.0-1.x.rpm"] (.file [])).put ["out", "zlib-1.0-1.x.rpm"]
    (.file []))

/-- The cloner that has zlib at hand has got the application. -/
def appTaken : Session Contents :=
  (clonePackage closureTools handEnv true "app-1.0-1.x" ⟨.start handDisk, ∅⟩).2

/-- Zlib was brought along as a package at hand, and to ask for it afterwards changes nothing. -/
theorem booked_appTaken :
    appTaken.agent.entries = [("app-1.0-1.x", ⟨⟨"/out/app-1.0-1.x.rpm"⟩, false⟩),
        ("zlib-1.0-1.x", ⟨⟨"/out/zlib-1.0-1.x.rpm"⟩, true⟩)]
      ∧ ∃ s, clonePackage findingTools handEnv false "zlib-1.0-1.x" ⟨appTaken.world, appTaken.agent⟩
          = (.ok true, s)
        ∧ s.agent.find? "zlib-1.0-1.x" = some ⟨⟨"/out/zlib-1.0-1.x.rpm"⟩, true⟩
        ∧ ∀ n p, appTaken.agent.find? n = some p → s.agent.find? n = some p := by
  have hcloned : Cloned handEnv appTaken.agent := by
    rw [appTaken]
    exact .call closureTools true "app-1.0-1.x" (.start handDisk) .new
  have hok : (clonePackage findingTools handEnv false "zlib-1.0-1.x"
      ⟨appTaken.world, appTaken.agent⟩).1 = .ok true := by decide +kernel
  rcases hcall : clonePackage findingTools handEnv false "zlib-1.0-1.x"
    ⟨appTaken.world, appTaken.agent⟩ with ⟨r, s⟩
  rw [hcall] at hok
  obtain rfl : r = .ok true := hok
  have hpath : handEnv.outDir.join ⟨"zlib-1.0-1.x" ++ ".rpm"⟩ = ⟨"/out/zlib-1.0-1.x.rpm"⟩ := by
    decide +kernel
  obtain ⟨-, hcalls⟩ := booked_of_cloned hcloned
  obtain ⟨hsucceeds, -⟩ := hcalls findingTools false "zlib-1.0-1.x" appTaken.world
  obtain ⟨hself, -, -, hkept⟩ := hsucceeds true s hcall
  rw [hpath] at hself
  exact ⟨by decide +kernel, s, rfl, hself, hkept⟩

end RpmProvision.Tdnf
