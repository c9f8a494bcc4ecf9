/-
What a cloner takes over from a summary.

Whatever a cloner has got, by calls for packages or by restores, it has recorded every RPM where its
environment puts the RPM of that package. So another cloner with the same output directory finds the
RPMs of its summary where it looks for them, and if they are all there it has nothing to get.

* **`Reached`** — what a cloner may have recorded after any calls;
* **`placed_of_reached`** — it has recorded every RPM where the RPM is put;
* **`restore_apply`** — a restore that finds all RPMs;
* **`restoreContents_of_saveContents`** — a cloner that restores what another one has saved.
-/
import RpmProvision.Proofs.Summary
import RpmProvision.Proofs.Tdnf.Bookkeeping

namespace RpmProvision

namespace Tdnf

open Step

variable {tools : Tools} {env : Environment}

/-! ### Where RPMs are recorded -/

/-- What the cloner of an environment may have recorded after calls for packages and restores, in any
order, in any worlds and with any tools. Some of the calls may have failed. -/
inductive Reached (env : Environment) : Contents → Prop where
  | fresh : Reached env ∅
  | clone {c : Contents} (tools : Tools) (cloneDeps : Bool) (package : String) (w : World) :
      Reached env c → Reached env ((cloner tools env).clonePackage cloneDeps package ⟨w, c⟩).2.agent
  | restore {c : Contents} (tools : Tools) (summary : Summary) (w : World) :
      Reached env c → Reached env ((cloner tools env).restore summary ⟨w, c⟩).2.agent

/-- Every RPM is recorded where the environment puts it. -/
def Placed (env : Environment) (c : Contents) : Prop :=
  ∀ name p, c.find? name = some p → p.rpmPath = env.rpmPath name

theorem placed_empty (env : Environment) : Placed env ∅ := fun _ _ h => nomatch h

theorem Placed.insert {c : Contents} (h : Placed env c) (name : String) (prebuilt : Bool) :
    Placed env (c.insert name ⟨env.rpmPath name, prebuilt⟩) :=
  SortedMap.forall_find?_insert h rfl

theorem placed_addBroughtAlong {c : Contents} (h : Placed env c) (names : List String) :
    Placed env (addBroughtAlong env names c) :=
  forall_addBroughtAlong (P := fun n p => p.rpmPath = env.rpmPath n) (fun _ _ => rfl) h

/-- What is taken over is recorded where this environment puts it, wherever the summary says. -/
theorem placed_restored (env : Environment) (c : Contents) :
    Placed env (SortedMap.ofList (c.entries.map env.restored)) := by
  intro name p hp
  obtain ⟨entry, -, heq⟩ := List.mem_map.mp (SortedMap.mem_of_find?_ofList hp)
  cases heq
  rfl

/-- What happens to the world alone does not change what is recorded. -/
theorem maintains_agent {α : Type} {P : Contents → Prop} (x : Step World Error α) :
    Maintains (fun s : Session Contents => P s.agent) (Session.onWorld x) := .within fun _ hs => hs

theorem placed_clonePackage (cloneDeps : Bool) (package : String) :
    Maintains (fun s => Placed env s.agent) (clonePackage tools env cloneDeps package) := by
  have hrecord (before : SortedSet String) (prebuilt : Bool) :
      Maintains (fun s => Placed env s.agent) (record env before package prebuilt) := by
    refine .bind (maintains_agent _) fun after => .bind (.forM (fun _ => maintains_agent _) _)
      fun _ => .modify fun s hs => ?_
    exact (placed_addBroughtAlong hs _).insert package prebuilt
  exact .bind (maintains_agent _) fun before => .bind (maintains_agent _) fun prebuilt =>
    .bind (hrecord before prebuilt) fun _ => .pure _

theorem placed_restore (summary : Summary) :
    Maintains (fun s => Placed env s.agent) (restore tools env summary) :=
  .bind (.forM (fun _ => maintains_agent _) _) fun _ =>
    .modify fun _ _ => placed_restored env summary.packages

/-- Whatever a cloner has recorded, it has recorded where the RPM is put. -/
theorem placed_of_reached {c : Contents} (h : Reached env c) : Placed env c := by
  induction h with
  | fresh => exact placed_empty env
  | @clone c tools cloneDeps package w _ ih =>
    exact (placed_clonePackage cloneDeps package).of_run ⟨w, c⟩ ih
  | @restore c tools summary w _ ih => exact (placed_restore summary).of_run ⟨w, c⟩ ih

/-! ### Restoring when everything is there -/

theorem ensure_of_isFile {name : String} {w : World} (h : w.disk.isFile (env.rpmPath name)) :
    ensure tools env name w = (.ok (), w) := by
  rw [ensure, bind_apply, asks_apply, andThen_ok, h]
  rfl

theorem forM_ensure_of_isFile {names : List String} {s : Session Contents}
    (h : ∀ name ∈ names, s.world.disk.isFile (env.rpmPath name)) :
    (names.forM fun name => Session.onWorld (ensure tools env name)) s = (.ok (), s) := by
  induction names with
  | nil => rfl
  | cons name rest ih =>
    have hname : Session.onWorld (ensure tools env name) s = (.ok (), s) := by
      rw [Session.onWorld, within_apply, ensure_of_isFile (h name List.mem_cons_self)]
    show andThen _ (Session.onWorld (ensure tools env name) s) = _
    rw [hname, andThen_ok]
    exact ih fun n hn => h n (List.mem_cons_of_mem name hn)

/-- Where the RPMs of a summary are all there, a restore records its packages and does nothing else. -/
theorem restore_apply {summary : Summary} {s : Session Contents}
    (h : ∀ name ∈ summary.packages.keys, s.world.disk.isFile (env.rpmPath name)) :
    restore tools env summary s
      = (.ok (), ⟨s.world, SortedMap.ofList (summary.packages.entries.map env.restored)⟩) := by
  rw [restore, bind_apply, forM_ensure_of_isFile h]
  rfl

/-- What is recorded where this environment puts it is taken over as it is. -/
theorem ofList_restored {c : Contents} (h : Placed env c) :
    SortedMap.ofList (c.entries.map env.restored) = c := by
  have hsame : c.entries.map env.restored = c.entries := by
    refine (List.map_congr_left fun entry hentry => ?_).trans (List.map_id c.entries)
    have hpath := h entry.1 entry.2 (SortedMap.find?_eq_some_iff.mpr hentry)
    rw [Environment.restored, ← hpath]
    rfl
  rw [hsame, c.ofList_entries]

/-! ### Saved by one cloner, restored by another -/

/-- Environments with one output directory put the RPMs of packages at the same places. -/
theorem rpmPath_congr {env' : Environment} (h : env'.outDir = env.outDir) (name : String) :
    env'.rpmPath name = env.rpmPath name := by
  rw [Environment.rpmPath, Environment.rpmPath, h]

/-- Suppose that a cloner has saved what it has got after any calls, that what the file held then is
still what can be read of it, and that every RPM that the cloner has recorded is still a file. Then
another cloner with the same output directory, whatever RPMs it has at hand and whatever it has
recorded, succeeds in restoring from that file. It calls no program and leaves all files alone, and it
has recorded then what the first one has. -/
theorem restoreContents_of_saveContents {tools tools' : Tools} {env env' : Environment}
    {c c' : Contents} {path : Path} {w w' : World} {s : Session Contents} {l : Location}
    {octets : Bytes} (hc : Reached env c) (hout : env'.outDir = env.outDir) (htree : w.disk.IsTree)
    (hlog : ∀ f, w.logFile = some f → w.disk.writable path ≠ .ok f.location)
    (hsave : (cloner tools env).saveContents path ⟨w, c⟩ = (.ok (), s))
    (hsaved : s.world.disk.find path = .ok (l, .file octets))
    (hkept : w'.disk.read path = .ok octets)
    (hstand : ∀ name p, c.find? name = some p → w'.disk.isFile p.rpmPath) :
    ∃ final, (cloner tools' env').restoreContents path ⟨w', c'⟩ = (.ok (), final)
      ∧ w'.OnlyLogs final.world
      ∧ ((cloner tools' env').contents final).1 = ((cloner tools env).contents s).1 := by
  obtain ⟨w₁, e, hsummary, rfl⟩ := Cloner.saveContents_eq_ok hsave
  have hplaced : Placed env' c := by
    intro name p hp
    rw [rpmPath_congr hout]
    exact placed_of_reached hc name p hp
  -- the file holds the summary of the first cloner
  have hstored : (Summary.ofContents c).Stored path w'.disk := by
    obtain ⟨l', hfind⟩ := Summary.find_of_save (e := e) htree hlog hsummary
    cases hfind.symm.trans hsaved
    exact Summary.stored_of_read hkept rfl
  -- and all its RPMs are where the second one looks for them
  have hrestore : (cloner tools' env').restore (Summary.ofContents c) ⟨w', c'⟩
      = (.ok (), ⟨w', c⟩) := by
    refine (restore_apply fun name hname => ?_).trans ?_
    · obtain ⟨p, hp⟩ := SortedMap.mem_keys_iff.mp hname
      rw [← hplaced name p hp]
      exact hstand name p hp
    · show (Except.ok (), (⟨w', SortedMap.ofList (c.entries.map env'.restored)⟩ : Session Contents)) = _
      rw [ofList_restored hplaced]
  have hrun := Cloner.restoreContents_of_stored (s := ⟨w', c'⟩) hstored (cloner tools' env')
  rw [bind_apply, mapError_apply, hrestore] at hrun
  exact ⟨_, hrun, w'.onlyLogs_record _, rfl⟩

/-! ### One package, saved and restored -/

/-- The cloner has taken the package at hand into the output directory. -/
def handTaken : Session Contents :=
  ((cloner findingTools handEnv).clonePackage false "zlib-1.0-1.x" ⟨.start handDisk, ∅⟩).2

/-- What it has got is saved beside the RPM. -/
def handSaved : Session Contents :=
  ((cloner findingTools handEnv).saveContents ⟨"/out/summary.json"⟩ handTaken).2

/-- A cloner without RPMs at hand, which has recorded another package, takes the package over. -/
theorem restored_handSaved :
    ∃ final, (cloner strayTools strayEnv).restoreContents ⟨"/out/summary.json"⟩
        ⟨handSaved.world, .ofList [("curl", ⟨⟨"/elsewhere/curl.rpm"⟩, true⟩)]⟩ = (.ok (), final)
      ∧ handSaved.world.OnlyLogs final.world
      ∧ ((cloner strayTools strayEnv).contents final).1
        = ((cloner findingTools handEnv).contents handSaved).1
      ∧ handSaved.agent.entries = [("zlib-1.0-1.x", ⟨⟨"/out/zlib-1.0-1.x.rpm"⟩, true⟩)] := by
  have hreached : Reached handEnv handTaken.agent := .clone findingTools false _ _ .fresh
  have htree : handTaken.world.disk.IsTree := by decide +kernel
  have hlog : ∀ f, handTaken.world.logFile = some f →
      handTaken.world.disk.writable ⟨"/out/summary.json"⟩ ≠ .ok f.location := fun _ h => nomatch h
  have hsave : (cloner findingTools handEnv).saveContents ⟨"/out/summary.json"⟩ handTaken
      = (.ok (), handSaved) := Prod.ext (by decide +kernel) rfl
  obtain ⟨l, octets, hsaved, hread⟩ : ∃ l octets,
      handSaved.world.disk.find ⟨"/out/summary.json"⟩ = .ok (l, .file octets)
        ∧ handSaved.world.disk.read ⟨"/out/summary.json"⟩ = .ok octets := by
    have hok : (handSaved.world.disk.read ⟨"/out/summary.json"⟩).isOk = true := by decide +kernel
    cases h : handSaved.world.disk.read ⟨"/out/summary.json"⟩ with
    | error fault =>
      rw [h] at hok
      cases hok
    | ok octets =>
      obtain ⟨l, hfind⟩ := Disk.exists_of_read h
      exact ⟨l, octets, hfind, rfl⟩
  have hentries : handTaken.agent.entries
      = [("zlib-1.0-1.x", ⟨⟨"/out/zlib-1.0-1.x.rpm"⟩, true⟩)] := by decide +kernel
  have hstand : ∀ name p, handTaken.agent.find? name = some p →
      handSaved.world.disk.isFile p.rpmPath := by
    intro name p hp
    have hmem := SortedMap.find?_eq_some_iff.mp hp
    rw [hentries] at hmem
    cases List.mem_singleton.mp hmem
    decide +kernel
  obtain ⟨final, hrun, hlogs, hcontents⟩ := @restoreContents_of_saveContents findingTools strayTools
    handEnv strayEnv _ (.ofList [("curl", ⟨⟨"/elsewhere/curl.rpm"⟩, true⟩)]) _ _ _ _ _ _ hreached
    rfl htree hlog hsave hsaved hread hstand
  exact ⟨final, hrun, hlogs, hcontents, hentries⟩

/-- The same disk with a summary file that may be written but not read. -/
def sealedDisk : Disk :=
  (handDisk.put ["out", "summary.json"] (.file [])).permit ["out", "summary.json"] ⟨false, true, false⟩

/-- On this disk the package is taken as well, and saved. -/
def sealedSaved : Session Contents :=
  ((cloner findingTools handEnv).saveContents ⟨"/out/summary.json"⟩
    ((cloner findingTools handEnv).clonePackage false "zlib-1.0-1.x" ⟨.start sealedDisk, ∅⟩).2).2

/-- The world after the first save, but for the summary file. -/
def removedWorld : World :=
  { handSaved.world with disk := (Disk.remove ⟨"/out/summary.json"⟩ handSaved.world.disk).2 }

/-- That a cloner has saved what it has got and that all of it is still there is not enough for a
restore. The save may have gone to a file that cannot be read, and the file may be gone. -/
theorem not_restored_after_save :
    (((cloner findingTools handEnv).saveContents ⟨"/out/summary.json"⟩
            ((cloner findingTools handEnv).clonePackage false "zlib-1.0-1.x"
              ⟨.start sealedDisk, ∅⟩).2).1 = .ok ()
        ∧ sealedSaved.agent.entries = [("zlib-1.0-1.x", ⟨⟨"/out/zlib-1.0-1.x.rpm"⟩, true⟩)]
        ∧ sealedSaved.world.disk.isFile ⟨"/out/zlib-1.0-1.x.rpm"⟩
        ∧ ((cloner strayTools strayEnv).restoreContents ⟨"/out/summary.json"⟩
            ⟨sealedSaved.world, ∅⟩).1 = .error ⟨.summaryRestore,
              "'/out/summary.json': Permission denied (os error 13)"⟩)
      ∧ ((cloner findingTools handEnv).saveContents ⟨"/out/summary.json"⟩ handTaken).1 = .ok ()
        ∧ handSaved.agent.entries = [("zlib-1.0-1.x", ⟨⟨"/out/zlib-1.0-1.x.rpm"⟩, true⟩)]
        ∧ removedWorld.disk.isFile ⟨"/out/zlib-1.0-1.x.rpm"⟩
        ∧ ((cloner strayTools strayEnv).restoreContents ⟨"/out/summary.json"⟩
            ⟨removedWorld, ∅⟩).1 = .error ⟨.summaryRestore,
              "'/out/summary.json': No such file or directory (os error 2)"⟩ := by
  decide +kernel

end Tdnf

end RpmProvision
