/-
Which repositories a cloner uses.

It is decided once, when an environment is set up, which repositories are turned on and off. Every
call of the tool is told so before it is told what to do.

* **`Operation`**, **`performAll`** — what is asked of a cloner, one thing after the other;
* **`calls_of_acts`** — what a cloner does only adds calls, and what they begin with;
* **`calls_performAll`** — every call of the tool begins with the same arguments;
* **`Collects`**, **`Collection.collects_iff`** — the repositories that the collected files define;
* **`disableArg_mem_baseArgs_iff`**, **`enableArg_mem_baseArgs_iff`** — what is turned off and on;
* **`repositories_selected`** — all of this for an environment that was set up.
-/
import RpmProvision.Proofs.Tdnf.Acts
import RpmProvision.Proofs.Tdnf.RepoFiles
import RpmProvision.Proofs.World

namespace RpmProvision.Tdnf

open Step Disk

variable {tools : Tools} {env : Environment}

/-! ### Calls -/

/-- What is asked of a cloner. -/
inductive Operation where
  | lookup (r : Requirement)
  | get (cloneDeps : Bool) (package : String)
  | restore (summary : Summary)

/-- Ask a cloner for something, however that ends. -/
def Operation.perform (c : Cloner Contents) (s : Session Contents) : Operation → Session Contents
  | .lookup r => (c.whatProvides r s).2
  | .get cloneDeps package => (c.clonePackage cloneDeps package s).2
  | .restore summary => (c.restore summary s).2

/-- Ask a cloner for one thing after the other. -/
def performAll (c : Cloner Contents) (operations : List Operation) (s : Session Contents) :
    Session Contents := operations.foldl (Operation.perform c) s

/-- The call is one of the tool, which is told what every call is told and then what to do. -/
def Environment.Makes (env : Environment) (call : Call) : Prop :=
  ∃ subcommand rest, (subcommand = "provides" ∨ subcommand = "install")
    ∧ call.invocation = ⟨"tdnf", env.baseArgs ++ subcommand :: rest⟩

/-- Acts only add calls of the tool, and those begin with the arguments of the environment. -/
theorem calls_of_acts {w w' : World} (h : Acts tools env w w') :
    ∃ more, w'.calls = w.calls ++ more ∧ ∀ call ∈ more, env.Makes call := by
  induction h with
  | refl => exact ⟨[], (List.append_nil _).symm, by simp⟩
  | @tail v _ _ hact ih =>
    obtain ⟨more, hmore, hmakes⟩ := ih
    cases hact with
    | logs e => exact ⟨more, (v.calls_record e).trans hmore, hmakes⟩
    | copies hfind => exact ⟨more, hmore, hmakes⟩
    | @calls subcommand hsub rest =>
      rcases World.spawn_cases tools "tdnf" (env.baseArgs ++ subcommand :: rest) v with
        ⟨fault, hspawn⟩ | ⟨reply, d, -, hspawn⟩
      · rw [hspawn]
        exact ⟨more, hmore, hmakes⟩
      · rw [hspawn]
        refine ⟨more ++ [⟨⟨"tdnf", env.baseArgs ++ subcommand :: rest⟩, v.disk⟩], ?_, ?_⟩
        · rw [← List.append_assoc, ← hmore]
        · intro call hcall
          rcases List.mem_append.mp hcall with hcall | hcall
          · exact hmakes call hcall
          · rw [List.mem_singleton.mp hcall]
            exact ⟨subcommand, rest, hsub, rfl⟩

/-- Whatever is asked of a cloner, it only makes further calls, which begin with its arguments. -/
theorem calls_perform (tools : Tools) (operation : Operation) (s : Session Contents) :
    ∃ more, (operation.perform (cloner tools env) s).world.calls = s.world.calls ++ more
      ∧ ∀ call ∈ more, env.Makes call := by
  cases operation with
  | lookup r => exact calls_of_acts ((acts_onWorld (acts_whatProvides r)).of_run s .refl)
  | get cloneDeps package =>
    exact calls_of_acts ((acts_clonePackage cloneDeps package).of_run s .refl)
  | restore summary => exact calls_of_acts ((acts_restore summary).of_run s .refl)

/-- Whatever is asked of a cloner, one thing after the other, every call of the tool begins with the
same arguments. -/
theorem calls_performAll (tools : Tools) (operations : List Operation) (s : Session Contents) :
    ∃ more, (performAll (cloner tools env) operations s).world.calls = s.world.calls ++ more
      ∧ ∀ call ∈ more, env.Makes call := by
  induction operations generalizing s with
  | nil => exact ⟨[], (List.append_nil _).symm, by simp⟩
  | cons operation rest ih =>
    obtain ⟨first, hfirst, hmakes⟩ := calls_perform tools operation s
    obtain ⟨more, hmore, hmakes'⟩ := ih (operation.perform (cloner tools env) s)
    refine ⟨first ++ more, ?_, fun call hcall => ?_⟩
    · rw [← List.append_assoc, ← hfirst]
      exact hmore
    · rcases List.mem_append.mp hcall with hcall | hcall
      · exact hmakes call hcall
      · exact hmakes' call hcall

/-! ### Collected repositories -/

/-- A file in the directory defines the repository. -/
def Collects (d : Disk) (dir : Path) (r : Repository) : Prop :=
  ∃ listed name c text rs, d.list dir = .ok listed ∧ (name, .file c) ∈ listed
    ∧ Text.Utf8.decode? c = some text ∧ RepoFile.parse text = .ok rs ∧ r ∈ rs

namespace Collection

variable {config : ClonerConfig} {names : List String} {l : Location} {w ready copied w' : World}

/-- What is read of a copy is what it holds. -/
theorem exists_file_of_readText (h : Collection config env names l w ready copied w')
    {s : Path × Nat} (hs : s ∈ (sourcesOf config env.root names).zipIdx) {text : String}
    (hread : copied.disk.readText (env.reposDir.child (copyName s.2 s.1)) = .ok text) :
    ∃ c, copied.disk.entryAt (l ++ [copyName s.2 s.1]) = some (.file c)
      ∧ Text.Utf8.decode? c = some text := by
  obtain ⟨c, -, hentry⟩ := h.copies.copies s hs
  have hleads := h.meanwhile.grows.leads_directory h.fresh.leads
  obtain ⟨l', c', hfind, hdecode⟩ := exists_of_readText hread
  obtain ⟨rfl, hentry'⟩ := location_of_find_child hleads (isName_copyName s.2 s.1)
    (by simp [hentry]) hfind
  exact ⟨c', hentry', hdecode⟩

/-- The repositories that the files in the directory define are those of the copies, if all of these
can be read. -/
theorem collects_iff (h : Collection config env names l w ready copied w')
    (hdefined : ∀ file ∈ (sourcesOf config env.root names).zipIdx.map fun s =>
      env.reposDir.child (copyName s.2 s.1), ∃ rs, Defines copied.disk file rs) {r : Repository} :
    Collects w'.disk env.reposDir r ↔
      ∃ file ∈ (sourcesOf config env.root names).zipIdx.map fun s =>
        env.reposDir.child (copyName s.2 s.1), ∃ rs, Defines copied.disk file rs ∧ r ∈ rs := by
  constructor
  · -- a file that is there is a copy, so it was read when the selection was made
    rintro ⟨listed, name, c, text, rs, hlist, hmem, hdecode, hparse, hr⟩
    cases h.list.symm.trans hlist
    obtain ⟨⟨s, hs, rfl⟩, hentry⟩ := h.mem_children_iff.mp hmem
    have hfile := List.mem_map_of_mem (f := fun s : Path × Nat =>
      env.reposDir.child (copyName s.2 s.1)) hs
    obtain ⟨rs', text', hread, hparse'⟩ := hdefined _ hfile
    refine ⟨_, hfile, rs, ⟨text', hread, ?_⟩, hr⟩
    obtain ⟨c', hentry', hdecode'⟩ := h.exists_file_of_readText hs hread
    cases hentry.symm.trans hentry'
    cases hdecode.symm.trans hdecode'
    exact hparse
  · rintro ⟨file, hfile, rs, ⟨text, hread, hparse⟩, hr⟩
    obtain ⟨s, hs, rfl⟩ := List.mem_map.mp hfile
    obtain ⟨c, hentry, hdecode⟩ := h.exists_file_of_readText hs hread
    exact ⟨_, _, c, text, rs, h.list, h.mem_children_iff.mpr ⟨⟨s, hs, rfl⟩, hentry⟩, hdecode, hparse,
      hr⟩

theorem repositoryArgs_of_localOnly (h : Collection config env names l w ready copied w')
    (honly : config.localOnly = true) :
    ∃ d, Alike d w'.disk ∧ env.repositoryArgs = repositoryArgs config [disableArg "*"] d := by
  obtain ⟨selection, selected, halike, hselection, hargs⟩ := h.selected
  rcases selectionArgs_eq_ok hselection with ⟨-, -, rfl⟩ | ⟨hupstream, -⟩
  · exact ⟨selected.disk, halike, hargs⟩
  · rw [honly] at hupstream
    cases hupstream

/-- Just those arguments are made of the collected files that the repositories in them give. -/
theorem mem_selection_iff (h : Collection config env names l w ready copied w')
    (hupstream : config.localOnly = false) :
    ∃ selection d, Alike d w'.disk ∧ env.repositoryArgs = repositoryArgs config selection d
      ∧ ∀ arg, arg ∈ selection ↔ ∃ r, Collects w'.disk env.reposDir r
        ∧ previewArg? config.usePreviewRepo r = some arg := by
  obtain ⟨selection, selected, halike, hselection, hargs⟩ := h.selected
  refine ⟨selection, selected.disk, halike, hargs, fun arg => ?_⟩
  rcases selectionArgs_eq_ok hselection with ⟨honly, -⟩ | ⟨-, rfl, hdefined, hmem⟩
  · rw [hupstream] at honly
    cases honly
  rw [hmem]
  constructor
  · rintro ⟨file, hfile, rs, hrs, r, hr, harg⟩
    exact ⟨r, (h.collects_iff hdefined).mpr ⟨file, hfile, rs, hrs, hr⟩, harg⟩
  · rintro ⟨r, hr, harg⟩
    obtain ⟨file, hfile, rs, hrs, hr⟩ := (h.collects_iff hdefined).mp hr
    exact ⟨file, hfile, rs, hrs, r, hr, harg⟩

end Collection

/-! ### Arguments -/

/-- The id says "preview", in any letter case. -/
def SaysPreview (id : String) : Prop :=
  ∃ before word after, id.toList = before ++ word ++ after
    ∧ word.map Char.toLower = ['p', 'r', 'e', 'v', 'i', 'e', 'w']

theorem isPreview_iff (r : Repository) : r.isPreview = true ↔ SaysPreview r.id := by
  rw [Repository.isPreview, Text.occursIn_iff]
  constructor
  · rintro ⟨before, after, heq⟩
    obtain ⟨front, after', hid, hfront, -⟩ := List.map_eq_append_iff.mp heq.symm
    obtain ⟨before', word, rfl, -, hword⟩ := List.map_eq_append_iff.mp hfront
    exact ⟨before', word, after', hid, hword⟩
  · rintro ⟨before, word, after, hid, hword⟩
    rw [hid, List.map_append, List.map_append, hword]
    exact ⟨_, _, rfl⟩

/-- The id is that of a directory with RPMs at hand that has repository data: the one of RPMs that were
built before is `local-0`, and the one of the toolchain is `local-1`. -/
def IsLocal (config : ClonerConfig) (d : Disk) (id : String) : Prop :=
  d.isDirectory (config.rpmDir.child "repodata") ∧ id = "local-0"
    ∨ d.isDirectory (config.toolchainDir.child "repodata") ∧ id = "local-1"

theorem isLocal_iff_of_alike {config : ClonerConfig} {d d' : Disk} (h : Alike d d') {id : String} :
    IsLocal config d id ↔ IsLocal config d' id :=
  or_congr (and_congr_left fun _ => h.isDirectory_iff.symm)
    (and_congr_left fun _ => h.isDirectory_iff.symm)

theorem not_saysPreview_of_isLocal {config : ClonerConfig} {d : Disk} {id : String}
    (h : IsLocal config d id) : ¬ SaysPreview id := by
  have hpreview : ∀ id ∈ ["local-0", "local-1"], (Repository.ofId id).isPreview = false := by decide
  have hmem : id ∈ ["local-0", "local-1"] := by
    rcases h with ⟨-, rfl⟩ | ⟨-, rfl⟩
    · exact List.mem_cons_self
    · exact List.mem_cons_of_mem _ List.mem_cons_self
  intro hsays
  have htrue := (isPreview_iff (.ofId id)).mpr hsays
  rw [hpreview id hmem] at htrue
  cases htrue

/-- The third character of an argument, by which the switches can be told from all others. -/
def letter (arg : String) : Option Char := arg.toList[2]?

/-- The argument is told from all that turn nothing on or off by its third character. -/
def IsSwitch (arg : String) : Prop := letter arg = some 'd' ∨ letter arg = some 'e'

theorem letter_append {front : String} {c : Char} (h : letter front = some c) (rest : String) :
    letter (front ++ rest) = some c := by
  rw [letter, String.toList_append, List.getElem?_append_left (List.getElem?_eq_some_iff.mp h).1]
  exact h

theorem letter_disableArg (id : String) : letter (disableArg id) = some 'd' :=
  letter_append (by decide) id

theorem letter_enableArg (id : String) : letter (enableArg id) = some 'e' :=
  letter_append (by decide) id

theorem letter_repofrompath (k : Nat) (dir : Path) :
    letter s!"--repofrompath={localId k},{dir.text}" = some 'r' := by
  have hfront : letter "--repofrompath=" = some 'r' := by decide
  exact letter_append (letter_append (letter_append hfront _) _) _

namespace IsSwitch

variable {arg : String}

/-- What begins like a switch is one. -/
theorem of_beginning (h : "--disablerepo".toList <+: arg.toList ∨ "--enablerepo".toList <+: arg.toList) :
    IsSwitch arg := by
  rcases h with ⟨rest, h⟩ | ⟨rest, h⟩
  · left
    rw [letter, ← h]
    rfl
  · right
    rw [letter, ← h]
    rfl

theorem ne (h : IsSwitch arg) {other : String} {c : Char} (hletter : letter other = some c)
    (hc : c ≠ 'd' ∧ c ≠ 'e') : arg ≠ other := by
  rintro rfl
  rcases h with h | h
  · exact hc.1 (Option.some.inj (hletter.symm.trans h))
  · exact hc.2 (Option.some.inj (hletter.symm.trans h))

/-- What a call is told first is about where to find things. -/
theorem not_mem_first (h : IsSwitch arg) (root reposDir : Path) :
    arg ∉ ["--assumeyes", "--installroot=" ++ root.text,
      "--setopt=reposdir=" ++ reposDir.text] := by
  rw [List.mem_cons, List.mem_cons, List.mem_singleton]
  rintro (hmem | hmem | hmem)
  · exact h.ne (c := 'a') (by decide) (by decide) hmem
  · exact h.ne (c := 'i') (letter_append (by decide) _) (by decide) hmem
  · exact h.ne (c := 's') (letter_append (by decide) _) (by decide) hmem

theorem not_mem_tlsArgs (h : IsSwitch arg) (tls : Option TlsCredentials) : arg ∉ tlsArgs tls := by
  cases tls with
  | none => exact List.not_mem_nil
  | some tls =>
    rw [tlsArgs, List.mem_cons, List.mem_singleton]
    rintro (hmem | hmem)
    · exact h.ne (c := 's') (letter_append (by decide) _) (by decide) hmem
    · exact h.ne (c := 's') (letter_append (by decide) _) (by decide) hmem

theorem mem_localArgs_iff (h : IsSwitch arg) {d : Disk} {k : Nat} {dir : Path} :
    arg ∈ localArgs d k dir ↔
      d.isDirectory (dir.child "repodata") ∧ arg = enableArg (localId k) := by
  have hne := h.ne (letter_repofrompath k dir) (by decide)
  rw [localArgs]
  split_ifs with hdir
  · simp [hdir, hne]
  · simp [hdir]

/-- Of all arguments of an environment only those of the selection and those about RPMs at hand are
switches. -/
theorem mem_baseArgs_iff (h : IsSwitch arg) {config : ClonerConfig} {selection : List String}
    {d : Disk} (hargs : env.repositoryArgs = repositoryArgs config selection d) :
    arg ∈ env.baseArgs ↔ arg ∈ selection ∨ ∃ id, IsLocal config d id ∧ arg = enableArg id := by
  rw [Environment.baseArgs, hargs, repositoryArgs, List.mem_append,
    or_iff_right (h.not_mem_first env.root env.reposDir), List.mem_append,
    or_iff_left (h.not_mem_tlsArgs config.tls), List.mem_append, List.mem_append,
    h.mem_localArgs_iff, h.mem_localArgs_iff, or_assoc]
  have hlocal : localId 0 = "local-0" ∧ localId 1 = "local-1" := by decide
  rw [hlocal.1, hlocal.2]
  refine or_congr_right ⟨?_, ?_⟩
  · rintro (⟨hdir, rfl⟩ | ⟨hdir, rfl⟩)
    · exact ⟨_, .inl ⟨hdir, rfl⟩, rfl⟩
    · exact ⟨_, .inr ⟨hdir, rfl⟩, rfl⟩
  · rintro ⟨_, ⟨hdir, rfl⟩ | ⟨hdir, rfl⟩, rfl⟩
    · exact .inl ⟨hdir, rfl⟩
    · exact .inr ⟨hdir, rfl⟩

end IsSwitch

theorem disableArg_ne_enableArg (id id' : String) : disableArg id ≠ enableArg id' := by
  intro heq
  have hletter := congrArg letter heq
  rw [letter_disableArg, letter_enableArg] at hletter
  cases hletter

theorem disableArg_inj {id id' : String} : disableArg id = disableArg id' ↔ id = id' :=
  String.append_right_inj _

theorem enableArg_inj {id id' : String} : enableArg id = enableArg id' ↔ id = id' :=
  String.append_right_inj _

theorem disableArg_mem_baseArgs_iff {config : ClonerConfig} {selection : List String} {d : Disk}
    (h : env.repositoryArgs = repositoryArgs config selection d) {id : String} :
    disableArg id ∈ env.baseArgs ↔ disableArg id ∈ selection := by
  rw [IsSwitch.mem_baseArgs_iff (.inl (letter_disableArg id)) h, or_iff_left]
  rintro ⟨id', -, heq⟩
  exact disableArg_ne_enableArg id id' heq

theorem enableArg_mem_baseArgs_iff {config : ClonerConfig} {selection : List String} {d : Disk}
    (h : env.repositoryArgs = repositoryArgs config selection d) {id : String} :
    enableArg id ∈ env.baseArgs ↔ enableArg id ∈ selection ∨ IsLocal config d id := by
  rw [IsSwitch.mem_baseArgs_iff (.inr (letter_enableArg id)) h]
  refine or_congr_right ⟨?_, fun hlocal => ⟨id, hlocal, rfl⟩⟩
  rintro ⟨id', hlocal, heq⟩
  rw [enableArg_inj.mp heq]
  exact hlocal

theorem previewArg?_eq_disableArg {usePreview : Bool} {r : Repository} {id : String} :
    previewArg? usePreview r = some (disableArg id) ↔
      usePreview = false ∧ SaysPreview r.id ∧ r.id = id := by
  have hne : enableArg r.id ≠ disableArg id := (disableArg_ne_enableArg id r.id).symm
  rw [previewArg?, ← isPreview_iff]
  cases r.isPreview <;> cases usePreview <;> cases r.enabled <;> simp [hne, disableArg_inj]

theorem previewArg?_eq_enableArg {usePreview : Bool} {r : Repository} {id : String} :
    previewArg? usePreview r = some (enableArg id) ↔
      usePreview = true ∧ SaysPreview r.id ∧ r.enabled = false ∧ r.id = id := by
  have hne := disableArg_ne_enableArg r.id id
  rw [previewArg?, ← isPreview_iff]
  cases r.isPreview <;> cases usePreview <;> cases r.enabled <;> simp [hne, enableArg_inj]

theorem exists_of_previewArg? {usePreview : Bool} {r : Repository} {arg : String}
    (h : previewArg? usePreview r = some arg) : ∃ id, arg = disableArg id ∨ arg = enableArg id := by
  rw [previewArg?] at h
  split_ifs at h
  · exact ⟨r.id, .inl (Option.some.inj h).symm⟩
  · exact ⟨r.id, .inr (Option.some.inj h).symm⟩

/-- Every switch turns a repository off or on. -/
theorem Collection.exists_of_isSwitch {config : ClonerConfig} {names : List String} {l : Location}
    {w ready copied w' : World} (h : Collection config env names l w ready copied w') {arg : String}
    (hswitch : IsSwitch arg) (hmem : arg ∈ env.baseArgs) :
    ∃ id, arg = disableArg id ∨ arg = enableArg id := by
  obtain ⟨selection, d, hargs, hselection⟩ : ∃ selection d,
      env.repositoryArgs = repositoryArgs config selection d
        ∧ ∀ arg ∈ selection, ∃ id, arg = disableArg id ∨ arg = enableArg id := by
    cases honly : config.localOnly with
    | true =>
      obtain ⟨d, -, hargs⟩ := h.repositoryArgs_of_localOnly honly
      exact ⟨_, d, hargs, fun arg harg => ⟨"*", .inl (List.mem_singleton.mp harg)⟩⟩
    | false =>
      obtain ⟨selection, d, -, hargs, hselection⟩ := h.mem_selection_iff honly
      refine ⟨selection, d, hargs, fun arg harg => ?_⟩
      obtain ⟨r, -, hr⟩ := (hselection arg).mp harg
      exact exists_of_previewArg? hr
  rcases (hswitch.mem_baseArgs_iff hargs).mp hmem with hmem | ⟨id, -, rfl⟩
  · exact hselection arg hmem
  · exact ⟨id, .inr rfl⟩

/-- Which repositories the calls of a cloner may use, whatever is asked of it: every call of the
tool begins with the same arguments, and one that looks like a switch turns a repository off or on.

* If only RPMs at hand are to be used, everything is turned off first, and then only directories of
  RPMs at hand are turned on.
* If preview repositories are not to be used, just those are turned off that a collected file
  defines.
* If they are to be used, nothing is turned off, and of those that a collected file defines just the
  ones are turned on that their file leaves off. -/
theorem repositories_selected (tools : Tools) {config : ClonerConfig} {w w' : World}
    (htree : w.disk.IsTree) (hlog : w.LogStands) (hnew : setUp config w = (.ok env, w')) :
    (∀ operations contents, ∃ calls,
      (performAll (cloner tools env) operations ⟨w', contents⟩).world.calls = w.calls ++ calls
        ∧ ∀ call ∈ calls, env.Makes call)
    ∧ (∀ arg ∈ env.baseArgs,
      "--disablerepo".toList <+: arg.toList ∨ "--enablerepo".toList <+: arg.toList →
        ∃ id, arg = "--disablerepo=" ++ id ∨ arg = "--enablerepo=" ++ id)
    ∧ (config.localOnly = true →
      (∃ front back, env.baseArgs = front ++ "--disablerepo=*" :: back
        ∧ ∀ id, "--enablerepo=" ++ id ∉ front)
      ∧ (∀ id, "--disablerepo=" ++ id ∈ env.baseArgs ↔ id = "*")
      ∧ ∀ id, "--enablerepo=" ++ id ∈ env.baseArgs ↔ IsLocal config w'.disk id)
    ∧ (config.localOnly = false → config.usePreviewRepo = false →
      (∀ r, Collects w'.disk env.reposDir r → SaysPreview r.id →
        "--enablerepo=" ++ r.id ∉ env.baseArgs)
      ∧ (∀ id, "--disablerepo=" ++ id ∈ env.baseArgs ↔
        ∃ r, Collects w'.disk env.reposDir r ∧ SaysPreview r.id ∧ r.id = id)
      ∧ ∀ id, "--enablerepo=" ++ id ∈ env.baseArgs ↔ IsLocal config w'.disk id)
    ∧ (config.localOnly = false → config.usePreviewRepo = true →
      (∀ id, "--disablerepo=" ++ id ∉ env.baseArgs)
      ∧ ∀ id, "--enablerepo=" ++ id ∈ env.baseArgs ↔ IsLocal config w'.disk id
        ∨ ∃ r, Collects w'.disk env.reposDir r ∧ SaysPreview r.id ∧ r.enabled = false
          ∧ r.id = id) := by
  have hall : "--disablerepo=*" = disableArg "*" := by decide
  have hoff (id : String) : "--disablerepo=" ++ id = disableArg id := rfl
  have hon (id : String) : "--enablerepo=" ++ id = enableArg id := rfl
  simp only [hall, hoff, hon]
  obtain ⟨_, ready, names, l, copied, -, -, -, -, hcollection⟩ := exists_collection htree hlog hnew
  refine ⟨fun operations contents => ?_,
    fun arg hmem hlooks => hcollection.exists_of_isSwitch (.of_beginning hlooks) hmem,
    fun honly => ?_, fun hupstream hpreview => ?_, fun hupstream hpreview => ?_⟩
  · obtain ⟨calls, hcalls, hmakes⟩ := calls_performAll tools operations ⟨w', contents⟩
    rw [hcollection.grown.calls] at hcalls
    exact ⟨calls, hcalls, hmakes⟩
  · -- only RPMs at hand: what comes before "*" is about where to find things
    obtain ⟨d, halike, hargs⟩ := hcollection.repositoryArgs_of_localOnly honly
    have hfirst (id : String) := IsSwitch.not_mem_first (.inr (letter_enableArg id)) env.root
      env.reposDir
    have hbase : env.baseArgs = ["--assumeyes", "--installroot=" ++ env.root.text,
          "--setopt=reposdir=" ++ env.reposDir.text]
        ++ disableArg "*" :: (localArgs d 0 config.rpmDir ++ localArgs d 1 config.toolchainDir
          ++ tlsArgs config.tls) := by
      rw [Environment.baseArgs, hargs]
      rfl
    refine ⟨⟨_, _, hbase, hfirst⟩, fun id => ?_, fun id => ?_⟩
    · rw [disableArg_mem_baseArgs_iff hargs, List.mem_singleton, disableArg_inj]
    · rw [enableArg_mem_baseArgs_iff hargs, List.mem_singleton, isLocal_iff_of_alike halike]
      exact or_iff_right (disableArg_ne_enableArg "*" id).symm
  · -- no preview repositories: the selection turns nothing on
    obtain ⟨selection, d, halike, hargs, hmem⟩ := hcollection.mem_selection_iff hupstream
    rw [hpreview] at hmem
    have henabled (id : String) : enableArg id ∈ env.baseArgs ↔ IsLocal config w'.disk id := by
      rw [enableArg_mem_baseArgs_iff hargs, isLocal_iff_of_alike halike, hmem]
      refine or_iff_right ?_
      rintro ⟨r, -, harg⟩
      cases (previewArg?_eq_enableArg.mp harg).1
    refine ⟨fun r _ hsays hmem => ?_, fun id => ?_, henabled⟩
    · exact not_saysPreview_of_isLocal ((henabled r.id).mp hmem) hsays
    · rw [disableArg_mem_baseArgs_iff hargs, hmem]
      refine exists_congr fun r => and_congr_right fun _ => ?_
      rw [previewArg?_eq_disableArg]
      exact and_iff_right rfl
  · -- preview repositories: the selection turns nothing off
    obtain ⟨selection, d, halike, hargs, hmem⟩ := hcollection.mem_selection_iff hupstream
    rw [hpreview] at hmem
    refine ⟨fun id => ?_, fun id => ?_⟩
    · rw [disableArg_mem_baseArgs_iff hargs, hmem]
      rintro ⟨r, -, harg⟩
      cases (previewArg?_eq_disableArg.mp harg).1
    · rw [enableArg_mem_baseArgs_iff hargs, isLocal_iff_of_alike halike, hmem, or_comm]
      refine or_congr_right (exists_congr fun r => and_congr_right fun _ => ?_)
      rw [previewArg?_eq_enableArg]
      exact and_iff_right rfl

/-- A repository file that defines a preview repository and leaves it off. -/
def previewFile : Bytes := "[x-Preview]\nenabled=0".toUTF8.toList

/-- Settings by which preview repositories are used, with a repository file. -/
def previewConfig : ClonerConfig :=
  { baseConfig with
    toolchainDir := ⟨"a"⟩
    repoFiles := [⟨"a/base.repo"⟩]
    usePreviewRepo := true }

/-- A disk with the repository file and an empty worker archive. Of the directories with RPMs at hand
only the first one has repository data. -/
def previewDisk : Disk :=
  ⟨.ofList [(["tmp"], .directory), (["rpms"], .directory), (["rpms", "repodata"], .directory),
    (["a"], .directory), (["a", "base.repo"], .file previewFile),
    (["w.tgz"], .file (Archive.Gzip.pack []))], [], ∅⟩

/-- A preview repository is turned on that its file leaves off, and so is the directory with
repository data, but not the other one. Nothing is turned off. -/
theorem preview_enabled : ∃ env w', setUp previewConfig (.start previewDisk) = (.ok env, w')
    ∧ (∀ id, "--disablerepo=" ++ id ∉ env.baseArgs)
    ∧ "--enablerepo=" ++ "x-Preview" ∈ env.baseArgs ∧ "--enablerepo=" ++ "local-0" ∈ env.baseArgs
    ∧ "--enablerepo=" ++ "local-1" ∉ env.baseArgs := by
  have hdir : (setUp previewConfig (.start previewDisk)).1.toOption.map Environment.reposDir
      = some ⟨"/tmp/.tmp000000/repos.d"⟩ := by decide +kernel
  have hlist : (setUp previewConfig (.start previewDisk)).2.disk.list ⟨"/tmp/.tmp000000/repos.d"⟩
      = .ok [("00-base.repo", .file previewFile)] := by decide +kernel
  have hdata : (setUp previewConfig (.start previewDisk)).2.disk.isDirectory ⟨"rpms/repodata"⟩ = true
      ∧ (setUp previewConfig (.start previewDisk)).2.disk.isDirectory ⟨"a/repodata"⟩ = false := by
    decide +kernel
  rcases hnew : setUp previewConfig (.start previewDisk) with ⟨fault | env, w'⟩
  · rw [hnew] at hdir
    cases hdir
  rw [hnew] at hdir hlist hdata
  -- the copy of the file is all that is collected
  have hcollects {r : Repository} :
      Collects w'.disk env.reposDir r ↔ r = ⟨"x-Preview", none, none, false⟩ := by
    rw [Option.some.inj hdir]
    constructor
    · rintro ⟨_, name, c, text, rs, hlisted, hmem, hdecode, hparse, hr⟩
      cases hlist.symm.trans hlisted
      cases List.mem_singleton.mp hmem
      have htext : Text.Utf8.decode? previewFile = some "[x-Preview]\nenabled=0" := by
        decide +kernel
      cases hdecode.symm.trans htext
      have hrepos : RepoFile.parse "[x-Preview]\nenabled=0"
          = .ok [⟨"x-Preview", none, none, false⟩] := rfl
      cases hparse.symm.trans hrepos
      exact List.mem_singleton.mp hr
    · rintro rfl
      exact ⟨_, _, previewFile, "[x-Preview]\nenabled=0", [_], hlist, List.mem_singleton_self _,
        by decide +kernel, rfl, List.mem_singleton_self _⟩
  obtain ⟨-, -, -, -, hpreview⟩ := repositories_selected (fun _ _ _ => none)
    (by decide +kernel) (fun l hl => by cases hl) hnew
  obtain ⟨hdisabled, henabled⟩ := hpreview rfl rfl
  refine ⟨env, w', rfl, hdisabled, (henabled _).mpr ?_, (henabled _).mpr ?_, fun hmem => ?_⟩
  · refine .inr ⟨_, hcollects.mpr rfl, ?_, rfl, rfl⟩
    exact ⟨['x', '-'], ['P', 'r', 'e', 'v', 'i', 'e', 'w'], [], by decide, by decide⟩
  · exact .inl (.inl ⟨hdata.1, rfl⟩)
  · rcases (henabled _).mp hmem with hlocal | ⟨r, hr, -, -, hid⟩
    · rcases hlocal with ⟨-, hid⟩ | ⟨hthere, -⟩
      · exact absurd hid (by decide)
      · exact absurd (hdata.2.symm.trans hthere) (by decide)
    · rw [hcollects.mp hr] at hid
      exact absurd hid (by decide)

end RpmProvision.Tdnf
