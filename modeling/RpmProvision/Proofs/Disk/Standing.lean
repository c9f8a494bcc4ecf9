/-
Files that go on standing.

A path leads to a file as long as the directories, the links and the file on its way are there. What
is put where nothing or a file stood takes nothing away from any way.

* **`Stands`** — the names of a path lead to a file;
* **`Retains`** — a disk has everything that another one has;
* **`retains_put`** — to put a file where nothing or a file stood takes nothing away;
* **`Retains.find_of_writable`** — a path leads to the file that was written to it;
* **`IsTree.copy`** — copying takes nothing away, and the target of a copy is a file.
-/
import RpmProvision.Disk.Files
import RpmProvision.Proofs.Disk
import RpmProvision.Proofs.Path
import RpmProvision.Proofs.Step

namespace RpmProvision.Disk

open Step

/-- The names of the path lead to a file. -/
def Stands (d : Disk) (p : Path) : Prop :=
  ∃ l c, d.walk .target maxLinks (d.startOf p) (namesOf p) = .ok (l, some (.file c))

/-- What leads to a file is a path to a file, unless its text is no path at all. -/
theorem isFile_iff {d : Disk} {p : Path} : d.isFile p ↔ pathFault? p = none ∧ d.Stands p := by
  unfold isFile find resolve resolveNames Stands
  cases pathFault? p with
  | some fault => simp
  | none =>
    match d.walk .target maxLinks (d.startOf p) (namesOf p) with
    | .error _ => simp
    | .ok (_, none) => simp
    | .ok (_, some (.file _)) => simp
    | .ok (_, some .directory) => simp
    | .ok (_, some (.link _)) => simp

/-! ### Where a way ends -/

/-- What stands at the end of a way is what stands at its location. -/
theorem entryAt_of_stretch {d : Disk} {goal : Goal} {l l' : Location} {names : List String}
    {e : Option Entry} (h : d.stretch goal l names = .ok (.arrived l' e)) : d.entryAt l' = e := by
  fun_induction stretch d goal l names with
  | case1 l =>
    cases h
    rfl
  | case2 l rest hl ih => exact ih h
  | case4 l rest hl _ _ ih => exact ih h
  | case5 l rest hl _ _ _ ih => exact ih h
  | case8 l name hl _ _ _ _ _ hnone _ =>
    cases h
    exact hnone
  | case10 l name rest hl _ _ _ _ _ _ target hlink _ =>
    cases h
    exact hlink
  | case12 l name rest hl _ _ _ _ _ _ e' _ hentry ih => exact ih h
  | _ => cases h

/-- Where a name leads on, there is a directory. -/
theorem directory_of_stretch_cons {d : Disk} {goal : Goal} {l : Location} {name : String}
    {rest : List String} {s : Stretch} (h : d.stretch goal l (name :: rest) = .ok s) :
    d.entryAt l = some .directory := by
  rw [stretch] at h
  rcases hl : d.entryAt l with _ | _ | _ | _
  · rw [hl] at h
    cases h
  · rfl
  · rw [hl] at h
    cases h
  · rw [hl] at h
    cases h

/-- A way that meets no link is a walk. -/
theorem walk_of_arrived {d : Disk} {goal : Goal} {l l' : Location} {names : List String}
    {e : Option Entry} (h : d.stretch goal l names = .ok (.arrived l' e)) (links : Nat) :
    d.walk goal links l names = .ok (l', e) := by
  rw [walk.eq_def, h]

/-- A walk goes on from a link that it meets. -/
theorem walk_of_atLink {d : Disk} {goal : Goal} {l dir : Location} {names rest : List String}
    {target : Path} (h : d.stretch goal l names = .ok (.atLink dir target rest)) (links : Nat) :
    d.walk goal (links + 1) l names =
      d.walk goal links (if target.isAbsolute then [] else dir) (namesOf target ++ rest) := by
  rw [walk.eq_def, h]

theorem entryAt_of_walk {d : Disk} {goal : Goal} {links : Nat} {l l' : Location}
    {names : List String} {e : Option Entry} (h : d.walk goal links l names = .ok (l', e)) :
    d.entryAt l' = e := by
  fun_induction walk d goal links l names with
  | case2 _ _ _ _ _ hs =>
    cases h
    exact entryAt_of_stretch hs
  | case4 _ _ _ _ _ _ _ ih => exact ih h
  | _ => cases h

/-! ### Trees -/

/-- Everything on the disk stands in a directory. -/
def IsTree (d : Disk) : Prop :=
  ∀ l e, d.entries.find? l = some e → d.entryAt l.dropLast = some .directory

theorem IsTree.parent {d : Disk} (h : d.IsTree) {l : Location} {e : Entry}
    (hl : d.entryAt l = some e) : d.entryAt l.dropLast = some .directory := by
  by_cases hnil : l = []
  · rw [hnil]
    rfl
  · rw [entryAt_of_ne_nil d hnil] at hl
    exact h l e hl

theorem isTree_iff {d : Disk} :
    d.IsTree ↔ ∀ p ∈ d.entries.entries, d.entryAt p.1.dropLast = some .directory :=
  ⟨fun h p hp => h p.1 p.2 (SortedMap.find?_eq_some_iff.mpr hp),
    fun h l e hl => h (l, e) (SortedMap.find?_eq_some_iff.mp hl)⟩

instance (d : Disk) : Decidable d.IsTree := decidable_of_iff _ isTree_iff.symm

theorem IsTree.alike {d d' : Disk} (h : d.IsTree) (halike : Alike d d') : d'.IsTree := by
  intro l e hl
  by_cases hnil : l = []
  · rw [hnil]
    rfl
  · rw [← entryAt_of_ne_nil d' hnil] at hl
    have hshape := halike.entry l
    rw [hl] at hshape
    match he : d.entryAt l with
    | none => simp [he] at hshape
    | some e' =>
      have hparent := halike.entry l.dropLast
      rw [h.parent he] at hparent
      match hp : d'.entryAt l.dropLast with
      | none => simp [hp] at hparent
      | some .directory => rfl
      | some (.file _) => simp [hp, Entry.shape] at hparent
      | some (.link _) => simp [hp, Entry.shape] at hparent

/-- A file may be at the location: there is one, or nothing is there but a directory around it. -/
def Vacant (d : Disk) (l : Location) : Prop :=
  (d.entryAt l = none ∧ d.entryAt l.dropLast = some .directory) ∨ ∃ c, d.entryAt l = some (.file c)

/-- In a tree a way that does not end at a link ends at a directory, or where a file may be. -/
theorem IsTree.vacant_of_stretch {d : Disk} (h : d.IsTree) {goal : Goal} {l l' : Location}
    {names : List String} {e : Option Entry}
    (hgoal : goal = .entry → ∀ target, e ≠ some (.link target))
    (hl : names = [] → d.entryAt l = some .directory ∨ d.Vacant l ∧ d.entryAt l ≠ none)
    (hs : d.stretch goal l names = .ok (.arrived l' e)) :
    d.entryAt l' = some .directory ∨ d.Vacant l' := by
  fun_induction Disk.stretch d goal l names with
  | case1 l =>
    cases hs
    exact (hl rfl).imp_right And.left
  | case2 l rest hdir ih => exact ih (fun _ => .inl hdir) hs
  | case4 l rest hdir _ _ ih => exact ih (fun _ => .inl hdir) hs
  | case5 l rest hdir _ _ _ ih => exact ih (fun _ => .inl (h.parent hdir)) hs
  | case8 l name hdir _ _ _ _ _ hnone _ =>
    cases hs
    have hparent : (l ++ [name]).dropLast = l := List.dropLast_concat
    rw [← hparent] at hdir
    exact .inr (.inl ⟨hnone, hdir⟩)
  | case10 l name rest hdir _ _ _ _ _ _ target hlink hend =>
    cases hs
    exact absurd rfl (hgoal hend.2 target)
  | case12 l name rest hdir _ _ _ _ _ _ e' hnolink hentry ih =>
    refine ih (fun _ => ?_) hs
    match e' with
    | .directory => exact .inl hentry
    | .file c =>
      refine .inr ⟨.inr ⟨c, hentry⟩, ?_⟩
      rw [hentry]
      exact Option.some_ne_none _
    | .link target => exact absurd rfl (hnolink target)
  | _ => cases hs

theorem directory_of_stretch {d : Disk} {goal : Goal} {l dir : Location} {names rest : List String}
    {target : Path} (hs : d.stretch goal l names = .ok (.atLink dir target rest)) :
    d.entryAt dir = some .directory := by
  fun_induction Disk.stretch d goal l names with
  | case2 l rest hdir ih => exact ih hs
  | case4 l rest hdir _ _ ih => exact ih hs
  | case5 l rest hdir _ _ _ ih => exact ih hs
  | case11 l name rest hdir =>
    cases hs
    exact hdir
  | case12 l name rest hdir _ _ _ _ _ _ e' _ _ ih => exact ih hs
  | _ => cases hs

theorem IsTree.vacant_of_walk {d : Disk} (h : d.IsTree) {goal : Goal} {links : Nat}
    {l l' : Location} {names : List String} {e : Option Entry}
    (hgoal : goal = .entry → ∀ target, e ≠ some (.link target))
    (hl : names = [] → d.entryAt l = some .directory)
    (hw : d.walk goal links l names = .ok (l', e)) :
    d.entryAt l' = some .directory ∨ d.Vacant l' := by
  fun_induction Disk.walk d goal links l names with
  | case2 _ l names _ _ hs =>
    cases hw
    exact h.vacant_of_stretch hgoal (fun hnil => .inl (hl hnil)) hs
  | case4 _ _ _ dir target rest hs ih =>
    refine ih (fun _ => ?_) hw
    by_cases habs : target.isAbsolute
    · rw [if_pos habs]
      rfl
    · rw [if_neg habs]
      exact directory_of_stretch hs
  | _ => cases hw

/-! ### Disks that have what others have -/

/-- The second disk has everything that the first one has, apart from what files hold, and lets
directories be searched as the first one does. -/
structure Retains (d d' : Disk) : Prop where
  workingDir : d'.workingDir = d.workingDir
  entry : ∀ l e, d.entryAt l = some e → (d'.entryAt l).map Entry.shape = some e.shape
  access : ∀ l, d.entryAt l = some .directory → d'.accessAt l = d.accessAt l

namespace Retains

variable {d d' : Disk} {goal : Goal}

theorem of_alike (h : Alike d d') : Retains d d' where
  workingDir := h.workingDir
  access l _ := h.accessAt l
  entry l e he := by
    rw [h.entry l, he]
    rfl

theorem directory (h : Retains d d') {l : Location} (hl : d.entryAt l = some .directory) :
    d'.entryAt l = some .directory := by
  have hshape := h.entry l _ hl
  match he : d'.entryAt l with
  | none => simp [he] at hshape
  | some .directory => rfl
  | some (.file _) => simp [he, Entry.shape] at hshape
  | some (.link _) => simp [he, Entry.shape] at hshape

theorem link (h : Retains d d') {l : Location} {target : Path}
    (hl : d.entryAt l = some (.link target)) : d'.entryAt l = some (.link target) := by
  have hshape := h.entry l _ hl
  match he : d'.entryAt l with
  | none => simp [he] at hshape
  | some .directory => simp [he, Entry.shape] at hshape
  | some (.file _) => simp [he, Entry.shape] at hshape
  | some (.link _) =>
    rw [he] at hshape
    exact hshape

theorem file (h : Retains d d') {l : Location} {c : Bytes} (hl : d.entryAt l = some (.file c)) :
    ∃ c', d'.entryAt l = some (.file c') := by
  have hshape := h.entry l _ hl
  match he : d'.entryAt l with
  | none => simp [he] at hshape
  | some .directory => simp [he, Entry.shape] at hshape
  | some (.file c') => exact ⟨c', rfl⟩
  | some (.link _) => simp [he, Entry.shape] at hshape

/-- A way leads where it led, if a file or a directory is there now; and a link on it is met as
before. -/
theorem stretch (h : Retains d d') (hgoal : goal ≠ .entry) {l : Location} {names : List String}
    {s : Stretch} (hs : d.stretch goal l names = .ok s) :
    (∀ l' e e', s = .arrived l' e → d'.entryAt l' = some e' → (∀ target, e' ≠ .link target) →
        d'.stretch .target l names = .ok (.arrived l' (some e')))
      ∧ ∀ dir target rest, s = .atLink dir target rest → d'.stretch .target l names = .ok s := by
  fun_induction Disk.stretch d goal l names with
  | case1 l =>
    cases hs
    refine ⟨fun l' e e' heq he' _ => ?_, fun _ _ _ heq => by cases heq⟩
    cases heq
    rw [Disk.stretch, he']
  | case2 l rest hl ih =>
    rw [Disk.stretch, h.directory hl]
    dsimp only
    rw [if_pos rfl]
    exact ih hs
  | case4 l rest hl hsearch hempty ih =>
    rw [Disk.stretch, h.directory hl, h.access l hl]
    dsimp only
    rw [if_neg hempty, if_neg hsearch, if_pos rfl]
    exact ih hs
  | case5 l rest hl hsearch hempty hhere ih =>
    rw [Disk.stretch, h.directory hl, h.access l hl]
    dsimp only
    rw [if_neg hempty, if_neg hsearch, if_neg hhere, if_pos rfl]
    exact ih hs
  | case8 l name hl hempty hsearch hhere hup hsize hnone _ =>
    -- there was nothing at the end of the way, and now something is
    cases hs
    refine ⟨fun l' e e' heq he' hnolink => ?_, fun _ _ _ heq => by cases heq⟩
    cases heq
    rw [Disk.stretch, h.directory hl, h.access l hl]
    dsimp only
    rw [if_neg hempty, if_neg hsearch, if_neg hhere, if_neg hup, if_neg (by simp), if_neg hsize, he']
    cases e' with
    | directory => exact congrArg (fun e => Except.ok (Stretch.arrived (l ++ [name]) e)) he'
    | file _ => exact congrArg (fun e => Except.ok (Stretch.arrived (l ++ [name]) e)) he'
    | link target => exact absurd rfl (hnolink target)
  | case10 l name rest hl _ _ _ _ _ _ target hlink hend => exact absurd hend.2 hgoal
  | case11 l name rest hl hempty hsearch hhere hup _ hsize target hlink _ =>
    cases hs
    refine ⟨fun _ _ _ heq => (by cases heq), fun _ _ _ _ => ?_⟩
    rw [Disk.stretch, h.directory hl, h.access l hl]
    dsimp only
    rw [if_neg hempty, if_neg hsearch, if_neg hhere, if_neg hup, if_neg (by simp), if_neg hsize,
      h.link hlink]
    dsimp only
    rw [if_neg (by simp)]
  | case12 l name rest hl hempty hsearch hhere hup _ hsize e' hnolink hentry ih =>
    have hgoes : d'.stretch .target l (name :: rest) = d'.stretch .target (l ++ [name]) rest := by
      rw [Disk.stretch, h.directory hl, h.access l hl]
      dsimp only
      rw [if_neg hempty, if_neg hsearch, if_neg hhere, if_neg hup, if_neg (by simp), if_neg hsize]
      cases e' with
      | directory => rw [h.directory hentry]
      | file _ =>
        obtain ⟨c', hc'⟩ := h.file hentry
        rw [hc']
      | link target => exact absurd rfl (hnolink target)
    rw [hgoes]
    exact ih hs
  | _ => cases hs

/-- A walk ends where it ended, if a file or a directory is there now. -/
theorem walk (h : Retains d d') (hgoal : goal ≠ .entry) {links : Nat} {l l' : Location}
    {names : List String} {e : Option Entry} (hw : d.walk goal links l names = .ok (l', e))
    {e' : Entry} (he' : d'.entryAt l' = some e') (hnolink : ∀ target, e' ≠ .link target) :
    d'.walk .target links l names = .ok (l', some e') := by
  fun_induction Disk.walk d goal links l names with
  | case2 links _ _ _ _ hs =>
    cases hw
    exact walk_of_arrived ((h.stretch hgoal hs).1 l' e e' rfl he' hnolink) links
  | case4 _ _ links dir target rest hs ih =>
    rw [walk_of_atLink ((h.stretch hgoal hs).2 dir target rest rfl)]
    exact ih hw
  | _ => cases hw

theorem startOf (h : Retains d d') (p : Path) : d'.startOf p = d.startOf p := by
  rw [Disk.startOf, Disk.startOf, h.workingDir]

/-- What stands goes on standing. -/
theorem stands (h : Retains d d') {p : Path} (hp : d.Stands p) : d'.Stands p := by
  obtain ⟨l, c, hw⟩ := hp
  obtain ⟨c', hc'⟩ := h.file (entryAt_of_walk hw)
  refine ⟨l, c', ?_⟩
  rw [h.startOf]
  exact h.walk (by decide) hw hc' (by simp)

theorem isFile (h : Retains d d') {p : Path} (hp : d.isFile p) : d'.isFile p := by
  obtain ⟨hfault, hstands⟩ := isFile_iff.mp hp
  exact isFile_iff.mpr ⟨hfault, h.stands hstands⟩

end Retains

/-! ### Files that are written -/

theorem Vacant.ne_nil {d : Disk} {l : Location} (h : d.Vacant l) : l ≠ [] := by
  rintro rfl
  rcases h with ⟨h, -⟩ | ⟨c, h⟩
  · cases h
  · cases h

theorem Vacant.ne_directory {d : Disk} {l : Location} (h : d.Vacant l) :
    d.entryAt l ≠ some .directory := by
  intro hdir
  rcases h with ⟨h, -⟩ | ⟨c, h⟩
  · rw [h] at hdir
    cases hdir
  · rw [h] at hdir
    cases hdir

theorem entryAt_put_self (d : Disk) {l : Location} (hl : l ≠ []) (e : Entry) :
    (d.put l e).entryAt l = some e := by
  rw [entryAt_of_ne_nil _ hl]
  exact SortedMap.find?_insert_self ..

theorem entryAt_put_of_ne (d : Disk) {l l' : Location} (h : l' ≠ l) (e : Entry) :
    (d.put l e).entryAt l' = d.entryAt l' := by
  by_cases hnil : l' = []
  · rw [hnil]
    rfl
  · rw [entryAt_of_ne_nil _ hnil, entryAt_of_ne_nil _ hnil]
    exact SortedMap.find?_insert_of_ne _ _ h

/-- To put a file where nothing or a file stood takes nothing away. -/
theorem retains_put {d : Disk} {l : Location} (hl : d.Vacant l) (c : Bytes) :
    Retains d (d.put l (.file c)) where
  workingDir := rfl
  access _ _ := rfl
  entry l' e he := by
    by_cases heq : l' = l
    · subst heq
      rw [entryAt_put_self d hl.ne_nil]
      rcases hl with ⟨hl, -⟩ | ⟨c', hl⟩
      · rw [hl] at he
        cases he
      · rw [hl] at he
        cases he
        rfl
    · rw [entryAt_put_of_ne d heq, he]
      rfl

theorem accessAt_permit_of_ne (d : Disk) {l l' : Location} (h : l' ≠ l) (a : Access) :
    (d.permit l a).accessAt l' = d.accessAt l' := by
  rw [accessAt, accessAt]
  show ((if a = .full then d.access.erase l else d.access.insert l a).find? l').getD .full = _
  by_cases ha : a = .full
  · rw [if_pos ha, SortedMap.find?_erase_of_ne _ h]
  · rw [if_neg ha, SortedMap.find?_insert_of_ne _ _ h]

/-- Directories go on being searched when it is said what may be done with a file. -/
theorem retains_permit {d : Disk} {l : Location} {c : Bytes} (hl : d.entryAt l = some (.file c))
    (a : Access) : Retains d (d.permit l a) where
  workingDir := rfl
  entry l' e he := by
    show (d.entryAt l').map Entry.shape = _
    rw [he]
    rfl
  access l' hl' := by
    refine accessAt_permit_of_ne d ?_ a
    rintro rfl
    rw [hl] at hl'
    cases hl'

namespace Retains

theorem refl (d : Disk) : Retains d d := .of_alike (.refl d)

theorem trans {d d' d'' : Disk} (h : Retains d d') (h' : Retains d' d'') : Retains d d'' where
  workingDir := h'.workingDir.trans h.workingDir
  access l hl := (h'.access l (h.directory hl)).trans (h.access l hl)
  entry l e he := by
    have hshape := h.entry l e he
    match he' : d'.entryAt l with
    | none => simp [he'] at hshape
    | some e' =>
      have hshape' := h'.entry l e' he'
      rw [he'] at hshape
      rw [hshape', ← hshape]
      rfl

end Retains

/-- To put a file where one may be leaves a tree. -/
theorem IsTree.put {d : Disk} (h : d.IsTree) {l : Location} (hl : d.Vacant l) (c : Bytes) :
    (d.put l (.file c)).IsTree := by
  -- nothing stands below the file, so every directory around something is what it was
  have hkept {l' : Location} (hdir : d.entryAt l' = some .directory) :
      (d.put l (.file c)).entryAt l' = some .directory := by
    rw [entryAt_put_of_ne d ?_, hdir]
    rintro rfl
    exact hl.ne_directory hdir
  intro l' e he
  by_cases heq : l' = l
  · subst heq
    rcases hl with ⟨-, hdir⟩ | ⟨c', hfile⟩
    · exact hkept hdir
    · exact hkept (h.parent hfile)
  · refine hkept (h l' e ?_)
    rw [← SortedMap.find?_insert_of_ne d.entries (.file c) heq]
    exact he

theorem IsTree.permit {d : Disk} (h : d.IsTree) (l : Location) (a : Access) : (d.permit l a).IsTree :=
  h

/-- A path that is not empty has a name. -/
theorem namesOf_ne_nil {p : Path} (h : pathFault? p = none) : namesOf p ≠ [] := by
  intro hnil
  obtain ⟨hnames, hslash⟩ := List.append_eq_nil_iff.mp hnil
  have htext : p.text.toList ≠ [] := by
    intro htext
    rw [pathFault?, if_pos (String.toList_eq_nil_iff.mp htext)] at h
    cases h
  obtain ⟨front, c, hlast⟩ : ∃ front c, p.text.toList = front ++ [c] :=
    ⟨_, _, (List.dropLast_concat_getLast htext).symm⟩
  have hc : c ≠ '/' := by
    rintro rfl
    have hends : p.endsInSlash = true := by
      rw [Path.endsInSlash, hlast]
      simp
    rw [if_pos hends] at hslash
    cases hslash
  -- the last character is in a piece, and that is a name
  obtain ⟨piece, hmem, hin⟩ := Text.exists_mem_splitAtEach hc
    (hlast ▸ List.mem_append_right front List.mem_cons_self : c ∈ p.text.toList)
  have hpiece : String.ofList piece ∈ p.pieces := List.mem_map_of_mem hmem
  have hempty := List.filter_eq_nil_iff.mp hnames _ hpiece
  have hnone : piece = [] := by
    have := congrArg String.toList (by simpa using hempty : String.ofList piece = "")
    simpa using this
  rw [hnone] at hin
  cases hin

/-- A path can be opened for writing if no directory is at its end and a file may be made or written
there. -/
theorem writable_eq_ok_iff {d : Disk} {p : Path} {l : Location} :
    d.writable p = .ok l ↔ ∃ e, d.resolve .output p = .ok (l, e) ∧ e ≠ some .directory
      ∧ (if e = none then d.mayChangeAround l else (d.accessAt l).write) := by
  unfold writable
  match d.resolve .output p with
  | .error _ => simp
  | .ok (l', some .directory) => simp
  | .ok (l', none) =>
    constructor
    · intro h
      dsimp only at h
      split_ifs at h with hmay
      cases h
      exact ⟨none, rfl, by simp, by simpa using hmay⟩
    · rintro ⟨e, h, -, hmay⟩
      cases h
      exact if_pos (by simpa using hmay)
  | .ok (l', some (.file c)) =>
    constructor
    · intro h
      dsimp only at h
      split_ifs at h with hmay
      cases h
      exact ⟨some (.file c), rfl, by simp, by simpa using hmay⟩
    · rintro ⟨e, h, -, hmay⟩
      cases h
      exact if_pos (by simpa using hmay)
  | .ok (l', some (.link target)) =>
    constructor
    · intro h
      dsimp only at h
      split_ifs at h with hmay
      cases h
      exact ⟨some (.link target), rfl, by simp, by simpa using hmay⟩
    · rintro ⟨e, h, -, hmay⟩
      cases h
      exact if_pos (by simpa using hmay)

/-- A file that can be opened for writing is at the end of its path, and no directory is there. -/
theorem walk_of_writable {d : Disk} {p : Path} {l : Location} (hw : d.writable p = .ok l) :
    pathFault? p = none ∧ ∃ e, d.walk .output maxLinks (d.startOf p) (namesOf p) = .ok (l, e)
      ∧ e ≠ some .directory := by
  obtain ⟨e, hr, hne, -⟩ := writable_eq_ok_iff.mp hw
  rw [resolve, resolveNames] at hr
  cases hp : pathFault? p with
  | some fault =>
    rw [hp] at hr
    cases hr
  | none =>
    rw [hp] at hr
    exact ⟨rfl, e, hr, hne⟩

theorem entryAt_of_writable {d : Disk} {p : Path} {l : Location} (hw : d.writable p = .ok l) :
    d.entryAt l ≠ some .directory := by
  obtain ⟨-, e, hwalk, hne⟩ := walk_of_writable hw
  rw [entryAt_of_walk hwalk]
  exact hne

/-- In a tree a file can be opened for writing where one may be. -/
theorem IsTree.vacant_of_writable {d : Disk} (h : d.IsTree) {p : Path} {l : Location}
    (hw : d.writable p = .ok l) :
    d.Vacant l ∧ ∃ e, d.walk .output maxLinks (d.startOf p) (namesOf p) = .ok (l, e) := by
  obtain ⟨hp, e, hwalk, -⟩ := walk_of_writable hw
  have hend := h.vacant_of_walk (fun hgoal => by cases hgoal) (fun hnil => absurd hnil (namesOf_ne_nil hp)) hwalk
  exact ⟨hend.resolve_left (entryAt_of_writable hw), e, hwalk⟩

/-- Where a file could be opened for writing, the path leads to the file that stands there later. -/
theorem Retains.find_of_writable {d d' : Disk} (h : Retains d d') {p : Path} {l : Location}
    (hw : d.writable p = .ok l) {c : Bytes} (hc : d'.entryAt l = some (.file c)) :
    d'.find p = .ok (l, .file c) := by
  obtain ⟨hp, e, hwalk, -⟩ := walk_of_writable hw
  rw [find, resolve, resolveNames, hp]
  dsimp only
  rw [h.startOf, h.walk (by decide) hwalk hc (by simp)]

/-- What is read of a file is what it holds. -/
theorem eq_of_read {d : Disk} {p : Path} {l : Location} {c octets : Bytes}
    (hfind : d.find p = .ok (l, .file c)) (hread : d.read p = .ok octets) : octets = c := by
  rw [read, openFile, hfind] at hread
  dsimp only at hread
  cases hmay : (d.accessAt l).read with
  | false =>
    rw [hmay, if_neg (by decide)] at hread
    cases hread
  | true =>
    rw [hmay, if_pos rfl] at hread
    exact (Except.ok.inj hread).symm

/-- Only a file can be read. -/
theorem exists_of_read {d : Disk} {p : Path} {octets : Bytes} (h : d.read p = .ok octets) :
    ∃ l, d.find p = .ok (l, .file octets) := by
  rcases hfind : d.find p with fault | ⟨l, _ | c | target⟩
  · rw [read, openFile, hfind] at h
    cases h
  · rw [read, openFile, hfind] at h
    dsimp only at h
    split_ifs at h
  · rw [eq_of_read hfind h]
    exact ⟨l, rfl⟩
  · rw [read, openFile, hfind] at h
    dsimp only at h
    split_ifs at h

/-- A text that is read is what a file holds. -/
theorem exists_of_readText {d : Disk} {p : Path} {text : String} (h : d.readText p = .ok text) :
    ∃ l c, d.find p = .ok (l, .file c) ∧ Text.Utf8.decode? c = some text := by
  rcases hread : d.read p with fault | octets
  · rw [readText, hread] at h
    cases h
  rw [readText, hread] at h
  dsimp only at h
  obtain ⟨l, hfind⟩ := exists_of_read hread
  rcases hdecode : Text.Utf8.decode? octets with _ | text'
  · rw [hdecode] at h
    cases h
  · rw [hdecode] at h
    cases h
    exact ⟨l, octets, hfind, hdecode⟩

/-- What a write does that succeeds: the file at the end of the path is emptied and then filled. -/
theorem write_eq_ok {p : Path} {content : Bytes} {d d' : Disk}
    (h : Disk.write p content d = (.ok (), d')) :
    ∃ l, d.writable p = .ok l ∧ d' = (d.put l (.file [])).put l (.file content) := by
  obtain ⟨l, d₁, hcreate, hput⟩ := bind_eq_ok.mp h
  rw [create] at hcreate
  cases hw : d.writable p with
  | error fault =>
    rw [hw] at hcreate
    cases hcreate
  | ok l' =>
    rw [hw] at hcreate
    cases hcreate
    cases hput
    exact ⟨l, rfl, rfl⟩

/-- Writing a file takes nothing away. -/
theorem IsTree.write {d : Disk} (h : d.IsTree) (p : Path) (content : Bytes) :
    (Disk.write p content d).2.IsTree ∧ Retains d (Disk.write p content d).2 := by
  unfold Disk.write
  rw [bind_apply, create]
  match hw : d.writable p with
  | .error fault => exact ⟨h, .refl d⟩
  | .ok l =>
    -- the file is emptied first, and then filled
    obtain ⟨hl, -⟩ := h.vacant_of_writable hw
    have hself := entryAt_put_self d hl.ne_nil (.file [])
    have hvacant : (d.put l (.file [])).Vacant l := .inr ⟨[], hself⟩
    exact ⟨(h.put hl []).put hvacant content, (retains_put hl []).trans (retains_put hvacant content)⟩

/-- After a write that succeeds the path leads to a file with the content. What may be done with it is
what could be done before. -/
theorem IsTree.find_of_write {d d' : Disk} (htree : d.IsTree) {p : Path} {content : Bytes}
    (h : Disk.write p content d = (.ok (), d')) :
    ∃ l, d.writable p = .ok l ∧ d'.find p = .ok (l, .file content)
      ∧ d'.accessAt l = d.accessAt l := by
  have hretains := (htree.write p content).2
  rw [h] at hretains
  obtain ⟨l, hw, rfl⟩ := write_eq_ok h
  have hfile := entryAt_put_self (d.put l (.file [])) (htree.vacant_of_writable hw).1.ne_nil
    (.file content)
  exact ⟨l, hw, hretains.find_of_writable hw hfile, rfl⟩

/-- The content of a file that is taken over into another one takes nothing away. -/
theorem IsTree.copyContent {d : Disk} (h : d.IsTree) (source : Location) {target : Location}
    {c : Bytes} (ht : d.entryAt target = some (.file c)) :
    (Disk.copyContent source target d).IsTree ∧ Retains d (Disk.copyContent source target d) := by
  have hvacant : d.Vacant target := .inr ⟨c, ht⟩
  unfold Disk.copyContent
  match d.entryAt source with
  | none => exact ⟨h, .refl d⟩
  | some .directory => exact ⟨h, .refl d⟩
  | some (.link _) => exact ⟨h, .refl d⟩
  | some (.file content) =>
    have hself := entryAt_put_self d hvacant.ne_nil (.file content)
    refine ⟨(h.put hvacant content).permit target _, ?_⟩
    exact (retains_put hvacant content).trans (retains_permit hself _)

/-- Copying takes nothing away, and the target of a copy is a file. -/
theorem IsTree.copy {d : Disk} (h : d.IsTree) (source target : Path) :
    (Disk.copy source target d).2.IsTree ∧ Retains d (Disk.copy source target d).2
      ∧ ((Disk.copy source target d).1 = .ok () → (Disk.copy source target d).2.isFile target) := by
  unfold Disk.copy
  rw [bind_apply, asks_apply, andThen_ok]
  match d.openFile source with
  | .error fault => exact ⟨h, .refl d, fun hok => by cases hok⟩
  | .ok (_, none) => exact ⟨h, .refl d, fun hok => by cases hok⟩
  | .ok (origin, some _) =>
    dsimp only
    rw [bind_apply, create]
    match hw : d.writable target with
    | .error fault => exact ⟨h, .refl d, fun hok => by cases hok⟩
    | .ok l =>
      obtain ⟨hl, -⟩ := h.vacant_of_writable hw
      have hself := entryAt_put_self d hl.ne_nil (.file [])
      obtain ⟨htree, hfilled⟩ := (h.put hl []).copyContent origin hself
      have hretains := (retains_put hl []).trans hfilled
      obtain ⟨c, hc⟩ := hfilled.file hself
      dsimp only
      rw [andThen_ok, modify_apply]
      refine ⟨htree, hretains, fun _ => ?_⟩
      rw [isFile, hretains.find_of_writable hw hc]

end RpmProvision.Disk
