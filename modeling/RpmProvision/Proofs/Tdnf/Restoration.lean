/-
How a cloner gets what a summary tells.

The packages are seen to in the order of their names, each in the world that the ones before it have
left. Only where an RPM is missing is something done. Nothing is recorded before all of them have
been seen to.

* **`Settles`** — what is done about one package;
* **`Restoration`** — what is done about one package after another, up to the first failure;
* **`Restoration.exists_fetched`** — which calls are made meanwhile;
* **`restoration_restore`** — the restore of a summary, and what is recorded after it.
-/
import RpmProvision.Proofs.Tdnf.Restore

namespace RpmProvision.Tdnf

open Step

variable {tools : Tools} {env : Environment}

/-- The call that downloads one package without what it depends on. -/
def Environment.fetching (env : Environment) (name : String) : Invocation :=
  ⟨"tdnf", env.baseArgs ++ ["install", "--downloadonly", "--downloaddir=" ++ env.outDir.text, name]⟩

/-! ### One package -/

/-- What is done about a package. Nothing is done if its RPM is there, or if the RPM at hand is the
one that is missing. Otherwise an RPM at hand is copied, and a package that is not at hand is
downloaded by one call. -/
inductive Settles (tools : Tools) (env : Environment) (name : String) (w : World) :
    Except Error Unit → World → Prop where
  | there (hthere : w.disk.isFile (env.rpmPath name)) : Settles tools env name w (.ok ()) w
  | same {source : Path} (hmissing : ¬ w.disk.isFile (env.rpmPath name))
      (hfind : env.localRpms.find? name = some source)
      (hsame : source.sameAs (env.rpmPath name)) : Settles tools env name w (.ok ()) w
  | copied {source : Path} {r : Except Error Unit} (hmissing : ¬ w.disk.isFile (env.rpmPath name))
      (hfind : env.localRpms.find? name = some source)
      (hother : ¬ source.sameAs (env.rpmPath name))
      (hresult : r = .ok () ↔ (Disk.copy source (env.rpmPath name) w.disk).1 = .ok ()) :
      Settles tools env name w r
        { w with disk := (Disk.copy source (env.rpmPath name) w.disk).2 }
  | downloaded {r : Except Error Unit} {reply : Except IoFault Reply} {w' : World}
      (events : List Event) (hmissing : ¬ w.disk.isFile (env.rpmPath name))
      (hfind : env.localRpms.find? name = none)
      (hspawn : World.spawn tools "tdnf" (env.fetching name).args (w.recordAll events)
        = (reply, w'))
      (hresult : r = .ok () ↔
        ∃ a, reply = .ok a ∧ a.success ∧ w'.disk.isFile (env.rpmPath name)) :
      Settles tools env name w r w'

theorem mapError_eq_ok_iff {ε ε' : Type} {f : ε → ε'} {r : Except ε Unit} :
    r.mapError f = .ok () ↔ r = .ok () := by
  cases r <;> simp [Except.mapError]

theorem downloadArgs_alone (env : Environment) (name : String) :
    env.baseArgs ++ env.downloadArgs false name = (env.fetching name).args := by
  simp [Environment.downloadArgs, Environment.fetching]

/-- A download calls the tool once. It succeeds if the tool reports success and the RPM is there. -/
theorem download_apply (tools : Tools) (env : Environment) (name : String) (w : World) :
    ∃ event reply, World.spawn tools "tdnf" (env.fetching name).args (w.record event)
        = (reply, (download tools env false name w).2)
      ∧ ((download tools env false name w).1 = .ok () ↔ ∃ a, reply = .ok a ∧ a.success
        ∧ (download tools env false name w).2.disk.isFile (env.rpmPath name)) := by
  let event : Event := ⟨.debug, .cloner,
    "Running tdnf " ++ String.intercalate " " (env.baseArgs ++ env.downloadArgs false name)⟩
  rcases hspawn : World.spawn tools "tdnf" (env.fetching name).args (w.record event) with ⟨reply, w'⟩
  have hcall : call tools env (env.downloadArgs false name) w
      = (reply.mapError fun fault =>
          ⟨.command, s!"Failed to run tdnf: {fault.message}. Is tdnf installed?"⟩, w') := by
    rw [← downloadArgs_alone] at hspawn
    show ((World.spawn tools "tdnf" _ (w.record event)).1.mapError _,
      (World.spawn tools "tdnf" _ (w.record event)).2) = _
    rw [hspawn]
  refine ⟨event, reply, ?_⟩
  rw [hspawn, download, bind_apply, hcall]
  match reply with
  | .error fault => simp [Except.mapError]
  | .ok a =>
    rw [Except.mapError, andThen_ok]
    by_cases hsuccess : a.success
    · rw [if_neg (by simp [hsuccess]), bind_apply, asks_apply, andThen_ok]
      by_cases hfile : w'.disk.isFile (env.rpmPath name)
      · simp [hsuccess, hfile]
      · simp [hfile]
    · simp [hsuccess]

/-- To see to a package is to do about it what has to be done. -/
theorem settles_ensure (tools : Tools) (env : Environment) (name : String) (w : World) :
    Settles tools env name w (ensure tools env name w).1 (ensure tools env name w).2 := by
  by_cases hthere : w.disk.isFile (env.rpmPath name)
  · rw [ensure_of_isFile hthere]
    exact .there hthere
  · rw [ensure, bind_apply, asks_apply, andThen_ok, if_neg hthere]
    cases hfind : env.localRpms.find? name with
    | some source =>
      dsimp only
      by_cases hsame : source.sameAs (env.rpmPath name)
      · rw [copyLocal, if_pos hsame]
        exact .same hthere hfind hsame
      · rw [copyLocal, if_neg hsame, mapError_apply, World.onDisk, within_apply]
        exact .copied hthere hfind hsame mapError_eq_ok_iff
    | none =>
      obtain ⟨event, reply, hspawn, hresult⟩ := download_apply tools env name
        (w.record ⟨.warn, .cloner,
          s!"'{name}' is missing from the output directory, downloading it again"⟩)
      exact .downloaded [_, event] hthere hfind hspawn hresult

/-- One more call is made for the packages that are missing and not at hand, if the tool can be called,
and none for the others. -/
theorem Settles.exists_fetched {name : String} {w w' : World} {r : Except Error Unit}
    (h : Settles tools env name w r w') :
    ∃ fetched, List.Sublist fetched [name] ∧ (∀ n ∈ fetched, env.localRpms.find? n = none)
      ∧ w'.calls.map Call.invocation = w.calls.map Call.invocation ++ fetched.map env.fetching := by
  have hnone : ∃ fetched, List.Sublist fetched [name] ∧ (∀ n ∈ fetched, env.localRpms.find? n = none)
      ∧ w.calls.map Call.invocation
        = w.calls.map Call.invocation ++ fetched.map env.fetching := ⟨[], by simp⟩
  cases h with
  | there _ => exact hnone
  | same _ _ _ => exact hnone
  | copied _ _ _ _ => exact hnone
  | downloaded events _ hfind hspawn _ =>
    rcases World.spawn_cases tools "tdnf" (env.fetching name).args (w.recordAll events) with
      ⟨fault, hcase⟩ | ⟨answer, d, -, hcase⟩
    · cases hcase.symm.trans hspawn
      rw [World.calls_recordAll]
      exact hnone
    · cases hcase.symm.trans hspawn
      refine ⟨[name], .refl _, by simp [hfind], ?_⟩
      rw [List.map_append, World.calls_recordAll]
      rfl

/-! ### One package after another -/

/-- The packages are seen to one after another, until one of them fails. -/
inductive Restoration (tools : Tools) (env : Environment) :
    List String → World → Except Error Unit → World → Prop where
  | done (w : World) : Restoration tools env [] w (.ok ()) w
  | next {name : String} {rest : List String} {w w' w'' : World} {r : Except Error Unit} :
      Settles tools env name w (.ok ()) w' → Restoration tools env rest w' r w'' →
      Restoration tools env (name :: rest) w r w''
  | stop {name : String} (rest : List String) {w w' : World} {e : Error} :
      Settles tools env name w (.error e) w' → Restoration tools env (name :: rest) w (.error e) w'

/-- The calls that are made: one for each of some packages that are not at hand, in their order. -/
theorem Restoration.exists_fetched {names : List String} {w w' : World} {r : Except Error Unit}
    (h : Restoration tools env names w r w') :
    ∃ fetched, List.Sublist fetched names ∧ (∀ n ∈ fetched, env.localRpms.find? n = none)
      ∧ w'.calls.map Call.invocation
        = w.calls.map Call.invocation ++ fetched.map env.fetching := by
  induction h with
  | done w => exact ⟨[], by simp⟩
  | stop rest hsettles =>
    obtain ⟨fetched, hsub, hnone, hcalls⟩ := hsettles.exists_fetched
    exact ⟨fetched, hsub.trans (by simp), hnone, hcalls⟩
  | next hsettles _ ih =>
    obtain ⟨first, hsub, hnone, hcalls⟩ := hsettles.exists_fetched
    obtain ⟨more, hsub', hnone', hcalls'⟩ := ih
    refine ⟨first ++ more, hsub.append hsub', fun n hn => ?_, ?_⟩
    · rcases List.mem_append.mp hn with hn | hn
      · exact hnone n hn
      · exact hnone' n hn
    · rw [hcalls', hcalls, List.map_append, List.append_assoc]

/-- What is recorded stays as it was while the packages are seen to. -/
theorem restoration_forM (tools : Tools) (env : Environment) (names : List String)
    (s : Session Contents) :
    ∃ r w, (names.forM fun name => Session.onWorld (ensure tools env name)) s = (r, ⟨w, s.agent⟩)
      ∧ Restoration tools env names s.world r w := by
  induction names generalizing s with
  | nil => exact ⟨.ok (), s.world, rfl, .done s.world⟩
  | cons name rest ih =>
    have hsettles := settles_ensure tools env name s.world
    rcases hensure : ensure tools env name s.world with ⟨e | u, w⟩
    · rw [hensure] at hsettles
      refine ⟨.error e, w, ?_, .stop rest hsettles⟩
      exact Session.onWorld_bind_of_error hensure _
    · rw [hensure] at hsettles
      obtain ⟨r, w', hrun, hrest⟩ := ih ⟨w, s.agent⟩
      refine ⟨r, w', ?_, .next hsettles hrest⟩
      refine Eq.trans ?_ hrun
      exact Session.onWorld_bind_of_ok hensure _

/-- The packages that are recorded after a restore. -/
theorem find?_restored (env : Environment) (c : Contents) (name : String) :
    (SortedMap.ofList (c.entries.map env.restored)).find? name
      = (c.find? name).map fun p => ⟨env.outDir.join ⟨name ++ ".rpm"⟩, p.prebuilt⟩ := by
  have hkeys : (c.entries.map env.restored).map Prod.fst = c.keys := by
    rw [List.map_map]
    rfl
  have hnodup : ((c.entries.map env.restored).map Prod.fst).Nodup := by
    rw [hkeys]
    exact c.nodup_keys
  refine Option.ext fun p => ?_
  rw [SortedMap.find?_ofList_iff hnodup, List.mem_map, Option.map_eq_some_iff]
  constructor
  · rintro ⟨entry, hentry, heq⟩
    cases heq
    exact ⟨entry.2, SortedMap.find?_eq_some_iff.mpr hentry, rfl⟩
  · rintro ⟨q, hq, rfl⟩
    exact ⟨(name, q), SortedMap.find?_eq_some_iff.mp hq, rfl⟩

/-- Whatever has been recorded, whatever a summary tells and whatever is on the disk: a restore sees
to the packages of the summary in the order of their names, one after another and up to the first
failure, and calls the tool for nothing but to download some of those that are not at hand. If it
succeeds, exactly the packages of the summary are recorded, each with the place where this environment
puts its RPM and with the flag of the summary. If it fails, what was recorded before still is. -/
theorem restoration_restore (tools : Tools) (env : Environment) (summary : Summary)
    (s : Session Contents) :
    (summary.packages.keys.Pairwise fun a b => a < b)
      ∧ Restoration tools env summary.packages.keys s.world (restore tools env summary s).1
        (restore tools env summary s).2.world
      ∧ (∃ fetched, List.Sublist fetched summary.packages.keys
        ∧ (∀ name ∈ fetched, env.localRpms.find? name = none)
        ∧ (restore tools env summary s).2.world.calls.map Call.invocation
          = s.world.calls.map Call.invocation ++ fetched.map env.fetching)
      ∧ ((restore tools env summary s).1 = .ok () →
        ∀ name, (restore tools env summary s).2.agent.find? name
          = (summary.packages.find? name).map fun p =>
            ⟨env.outDir.join ⟨name ++ ".rpm"⟩, p.prebuilt⟩)
      ∧ ∀ e, (restore tools env summary s).1 = .error e →
        (restore tools env summary s).2.agent = s.agent := by
  obtain ⟨r, w, hrun, hrestoration⟩ := restoration_forM tools env summary.packages.keys s
  refine ⟨summary.packages.pairwise_keys.imp fun h => compareOfLessAndEq_eq_lt.mp h, ?_⟩
  rw [restore, bind_apply, hrun]
  cases r with
  | error e =>
    refine ⟨hrestoration, hrestoration.exists_fetched, ?_, fun _ _ => rfl⟩
    intro hok
    cases hok
  | ok u =>
    refine ⟨hrestoration, hrestoration.exists_fetched, ?_, ?_⟩
    · intro _
      exact find?_restored env summary.packages
    · intro e he
      cases he

end RpmProvision.Tdnf
