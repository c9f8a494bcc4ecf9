/-
What the cloner does to RPMs.

The cloner writes its log, calls its tools, and copies RPMs into the output directory. Of these only
the tools can take an RPM away. So whatever was there when a run began still is as long as no call of
a tool has taken it away. An RPM that is at hand under the very path that it should have is not copied,
and nothing is checked then.

* **`Unspoiled`** — no call has taken an RPM away since some first calls;
* **`Spares`** — what was there in one world is in a later one, if the calls between are unspoiled;
* **`InPlace`** — the RPM at hand of a package is not copied;
* **`Acts.spares`** — all that a cloner does spares the RPMs;
* **`isFile_of_clonePackage`** — a package that was got has its RPM, or it is in place;
* **`spares_of_clonePackage`** — to get a package spares the RPMs.
-/
import RpmProvision.Proofs.Disk.Standing
import RpmProvision.Proofs.Tdnf.Acts
import RpmProvision.Proofs.Tdnf.Cloner
import RpmProvision.TestTransaction

namespace RpmProvision.Tdnf

open Step

/-! ### Calls that take nothing away -/

/-- The RPMs of packages that are files on the first disk are files on the second one. -/
def KeepsRpms (env : Environment) (d d' : Disk) : Prop :=
  ∀ package, d.isFile (env.rpmPath package) → d'.isFile (env.rpmPath package)

/-- No call that was made after the first ones took an RPM away, and each left a tree where it had
found one. -/
def Unspoiled (tools : Tools) (env : Environment) (first calls : List Call) : Prop :=
  ∀ before call after, calls = before ++ call :: after → first <+: before → ∀ reply d,
    tools before call.invocation call.disk = some (reply, d) →
      KeepsRpms env call.disk d ∧ (call.disk.IsTree → d.IsTree)

variable {tools : Tools} {env : Environment}

namespace Unspoiled

variable {first first' calls calls' : List Call}

theorem of_front (h : Unspoiled tools env first calls') (hfront : calls <+: calls') :
    Unspoiled tools env first calls := by
  obtain ⟨more, rfl⟩ := hfront
  rintro before call after rfl
  exact h before call (after ++ more) (by simp)

theorem of_later (h : Unspoiled tools env first calls) (hlater : first <+: first') :
    Unspoiled tools env first' calls :=
  fun before call after heq hfirst => h before call after heq (hlater.trans hfirst)

end Unspoiled

/-- The second world comes after the first one, and has the RPMs that the first one has, if no call
in between took any away. -/
structure Spares (tools : Tools) (env : Environment) (w w' : World) : Prop where
  calls : w.calls <+: w'.calls
  keeps : Unspoiled tools env w.calls w'.calls → w.disk.IsTree →
    KeepsRpms env w.disk w'.disk ∧ w'.disk.IsTree

namespace Spares

variable {w w' w'' : World}

theorem refl (w : World) : Spares tools env w w where
  calls := List.prefix_rfl
  keeps _ htree := ⟨fun _ h => h, htree⟩

theorem trans (h : Spares tools env w w') (h' : Spares tools env w' w'') :
    Spares tools env w w'' where
  calls := h.calls.trans h'.calls
  keeps hcalls htree := by
    obtain ⟨hkeeps, htree'⟩ := h.keeps (hcalls.of_front h'.calls) htree
    obtain ⟨hkeeps', htree''⟩ := h'.keeps (hcalls.of_later h.calls) htree'
    exact ⟨fun package hp => hkeeps' package (hkeeps package hp), htree''⟩

theorem of_retains (hcalls : w'.calls = w.calls)
    (h : w.disk.IsTree → Disk.Retains w.disk w'.disk ∧ w'.disk.IsTree) :
    Spares tools env w w' where
  calls := hcalls ▸ List.prefix_rfl
  keeps _ htree := by
    obtain ⟨hretains, htree'⟩ := h htree
    exact ⟨fun _ hp => hretains.isFile hp, htree'⟩

theorem record (w : World) (e : Event) : Spares tools env w (w.record e) := by
  have halike := w.alike_record e
  exact .of_retains (w.calls_record e) fun htree => ⟨.of_alike halike, htree.alike halike⟩

end Spares

/-- The step spares the RPMs, whichever way it ends. -/
structure Sparing (tools : Tools) (env : Environment) {ε α : Type} (x : Step World ε α) : Prop where
  spares : ∀ w, Spares tools env w (x w).2

namespace Sparing

variable {ε ε' α β : Type} {x : Step World ε α}

theorem bind {f : α → Step World ε β} (hx : Sparing tools env x)
    (hf : ∀ a, Sparing tools env (f a)) : Sparing tools env (x >>= f) := by
  refine ⟨fun w => ?_⟩
  have hw := hx.spares w
  rw [bind_apply]
  generalize x w = r at hw ⊢
  match r with
  | (.error e, w') => exact hw
  | (.ok a, w') => exact hw.trans ((hf a).spares w')

theorem mapError {f : ε → ε'} (hx : Sparing tools env x) : Sparing tools env (x.mapError f) :=
  ⟨hx.spares⟩

theorem of_eq (h : ∀ w, (x w).2 = w) : Sparing tools env x := by
  refine ⟨fun w => ?_⟩
  rw [h w]
  exact .refl w

/-- What a tool does is for the calls to say. -/
theorem spawn (program : String) (args : List String) :
    Sparing tools env (World.spawn tools program args) := by
  refine ⟨fun w => ?_⟩
  rcases World.spawn_cases tools program args w with ⟨fault, hspawn⟩ | ⟨reply, d, htool, hspawn⟩
  · rw [hspawn]
    exact .refl w
  · rw [hspawn]
    refine ⟨List.prefix_append .., fun hcalls htree => ?_⟩
    obtain ⟨hkeeps, htree'⟩ := hcalls w.calls ⟨⟨program, args⟩, w.disk⟩ [] rfl List.prefix_rfl reply d
      htool
    exact ⟨hkeeps, htree' htree⟩

end Sparing

/-! ### Getting a package -/

/-- Whatever a cloner does to a world spares the RPMs. -/
theorem Acts.spares {w w' : World} (h : Acts tools env w w') : Spares tools env w w' := by
  induction h with
  | refl => exact .refl w
  | @tail v _ _ hact ih =>
    refine ih.trans ?_
    cases hact with
    | logs e => exact .record v e
    | calls hsub rest => exact (Sparing.spawn ..).spares v
    | @copies package source hfind =>
      refine .of_retains rfl fun htree => ?_
      obtain ⟨htree', hretains, -⟩ := htree.copy source (env.rpmPath package)
      exact ⟨hretains, htree'⟩

/-- A download that reports success has left the RPM. -/
theorem isFile_of_download {cloneDeps : Bool} {package : String} {w w' : World}
    (h : download tools env cloneDeps package w = (.ok (), w')) :
    w'.disk.isFile (env.rpmPath package) := by
  obtain ⟨reply, w₁, -, h⟩ := bind_eq_ok.mp h
  split_ifs at h
  · cases h
  obtain ⟨there, w₂, hasks, h⟩ := bind_eq_ok.mp h
  cases hasks
  split_ifs at h with hthere
  · cases h
    exact hthere
  · cases h

/-- The RPM at hand of a package is at the path where the RPM of the package should be. -/
def Environment.InPlace (env : Environment) (package : String) : Prop :=
  ∃ source, env.localRpms.find? package = some source ∧ source.sameAs (env.rpmPath package)

/-- A copy of an RPM at hand is a file, unless nothing was copied. -/
theorem isFile_of_copyLocal {package : String} {source : Path} {w w' : World}
    (htree : w.disk.IsTree) (hfind : env.localRpms.find? package = some source)
    (h : copyLocal env package source w = (.ok (), w')) :
    w'.disk.isFile (env.rpmPath package) ∨ env.InPlace package := by
  unfold copyLocal at h
  split_ifs at h with hsame
  · exact .inr ⟨source, hfind, hsame⟩
  · rw [mapError_apply, World.onDisk, within_apply] at h
    obtain ⟨-, -, hfile⟩ := htree.copy source (env.rpmPath package)
    obtain ⟨hfst, rfl⟩ := Prod.mk.inj h
    refine .inl (hfile ?_)
    cases hcopy : (Disk.copy source (env.rpmPath package) w.disk).1 with
    | error fault =>
      rw [hcopy] at hfst
      cases hfst
    | ok _ => rfl

/-- A package that was obtained has its RPM, and it is at hand if that is reported. -/
theorem isFile_of_obtain {cloneDeps : Bool} {package : String} {w w' : World} {prebuilt : Bool}
    (htree : w.disk.IsTree) (h : obtain tools env cloneDeps package w = (.ok prebuilt, w')) :
    (w'.disk.isFile (env.rpmPath package) ∨ env.InPlace package)
      ∧ (prebuilt → env.localRpms.contains package) := by
  unfold obtain at h
  cases hfind : env.localRpms.find? package with
  | none =>
    rw [hfind] at h
    obtain ⟨_, w₁, hdownload, h⟩ := bind_eq_ok.mp h
    cases h
    exact ⟨.inl (isFile_of_download hdownload), fun hb => by cases hb⟩
  | some source =>
    rw [hfind] at h
    obtain ⟨_, w₁, hcopy, h⟩ := bind_eq_ok.mp h
    have hplaced := isFile_of_copyLocal htree hfind hcopy
    have hcontains : prebuilt → env.localRpms.contains package := by
      intro _
      rw [SortedMap.contains, hfind]
      rfl
    refine ⟨?_, hcontains⟩
    cases cloneDeps with
    | false =>
      cases h
      exact hplaced
    | true =>
      obtain ⟨_, w₂, hdownload, h⟩ := bind_eq_ok.mp h
      cases h
      exact .inl (isFile_of_download hdownload)

/-! ### Calls of the cloner -/

/-- To get a package spares the RPMs. -/
theorem spares_of_clonePackage {cloneDeps : Bool} {package : String} {s s' : Session Contents}
    {r : Except Error Bool} (h : clonePackage tools env cloneDeps package s = (r, s')) :
    Spares tools env s.world s'.world := by
  have hafter : Spares tools env s.world (clonePackage tools env cloneDeps package s).2.world :=
    ((acts_clonePackage cloneDeps package).of_run s .refl).spares
  rwa [h] at hafter

/-- A package that was got has its RPM, and it is at hand if that is reported. -/
theorem isFile_of_clonePackage {cloneDeps : Bool} {package : String} {s s' : Session Contents}
    {prebuilt : Bool} (htree : s.world.disk.IsTree)
    (hcalls : Unspoiled tools env s.world.calls s'.world.calls)
    (h : clonePackage tools env cloneDeps package s = (.ok prebuilt, s')) :
    (s'.world.disk.isFile (env.rpmPath package) ∨ env.InPlace package)
      ∧ (prebuilt → env.localRpms.contains package) := by
  obtain ⟨before, s₁, hlook, h⟩ := bind_eq_ok.mp h
  rw [look_apply] at hlook
  obtain ⟨-, rfl⟩ := Prod.mk.inj hlook
  obtain ⟨got, s₂, hobtain, h⟩ := bind_eq_ok.mp h
  obtain ⟨_, s₃, hrecord, hpure⟩ := bind_eq_ok.mp h
  cases hpure
  -- what is recorded leaves what was obtained where it is
  have hafter : Spares tools env s₂.world (record env before package prebuilt s₂).2.world :=
    ((acts_record before package prebuilt).of_run s₂ .refl).spares
  rw [hrecord] at hafter
  rw [Session.onWorld, within_apply] at hobtain
  obtain ⟨hfst, rfl⟩ := Prod.mk.inj hobtain
  have hobtained : Spares tools env s.world (obtain tools env cloneDeps package s.world).2 :=
    ((acts_obtain cloneDeps package).of_run s.world .refl).spares
  obtain ⟨hplaced, hhand⟩ := isFile_of_obtain htree (Prod.ext hfst rfl)
  have htree₂ := (hobtained.keeps (hcalls.of_front hafter.calls) htree).2
  have hkeeps := (hafter.keeps (hcalls.of_later hobtained.calls) htree₂).1
  exact ⟨hplaced.imp_left (hkeeps package), hhand⟩

theorem find?_addBroughtAlong {names : List String} {known : Contents} {n : String}
    {p : FetchedPackage} (h : known.find? n = some p) :
    (addBroughtAlong env names known).find? n = some p := by
  induction names generalizing known with
  | nil => exact h
  | cons m rest ih =>
    rw [addBroughtAlong, List.foldl_cons, ← addBroughtAlong]
    refine ih ?_
    cases hm : known.contains m with
    | true =>
      rw [if_pos rfl]
      exact h
    | false =>
      rw [if_neg (by decide), SortedMap.find?_insert_of_ne _ _ ?_, h]
      rintro rfl
      rw [SortedMap.contains, h] at hm
      cases hm

/-- What is known of a package after it was got, and of the others that were known before. -/
theorem find?_of_clonePackage {cloneDeps : Bool} {package : String} {s s' : Session Contents}
    {prebuilt : Bool} (h : clonePackage tools env cloneDeps package s = (.ok prebuilt, s')) :
    s'.agent.find? package = some ⟨env.rpmPath package, prebuilt⟩
      ∧ ∀ n p, n ≠ package → s.agent.find? n = some p → s'.agent.find? n = some p := by
  obtain ⟨-, before, after, -, -, hagent⟩ := agent_of_clonePackage h
  rw [hagent]
  refine ⟨SortedMap.find?_insert_self .., fun n p hne hp => ?_⟩
  rw [SortedMap.find?_insert_of_ne _ _ hne]
  exact find?_addBroughtAlong hp

/-- To write a summary spares the RPMs. -/
theorem sparing_save (summary : Summary) (path : Path) :
    Sparing tools env (summary.save path) := by
  refine .mapError ⟨fun w => .of_retains rfl fun htree => ?_⟩
  obtain ⟨htree', hretains⟩ := htree.write path (Text.Utf8.encode summary.render)
  exact ⟨hretains, htree'⟩

/-! ### Arbiters -/

/-- An arbiter that leaves alone what the cloner has got, and takes no RPM away but by a tool. -/
structure Harmless (tools : Tools) (env : Environment) (a : Arbiter Contents) : Prop where
  agent : ∀ rpms s, (a.installable rpms s).2.agent = s.agent
  spares : ∀ rpms s, Spares tools env s.world (a.installable rpms s).2.world

/-- A test transaction only calls its tool. -/
theorem harmless_testTransaction (root : Path) :
    Harmless tools env (TestTransaction.arbiter tools root) where
  agent _ _ := rfl
  spares rpms s := by
    have hrun : Sparing tools env (TestTransaction.run tools root rpms) :=
      .bind (.mapError (.spawn ..)) fun _ => .of_eq fun _ => rfl
    exact hrun.spares s.world

end RpmProvision.Tdnf
