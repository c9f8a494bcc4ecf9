/-
Disks that only grow.

Where a directory is made or a file is put at a new place, everything else stays as it is. So what
stands at a place, and where a path leads, is known as long as nothing but new places is used.

* **`Grows`** — everything that stands is left alone, apart from the file that the log is written to;
* **`IsTree.directory_of_below`** — in a tree there is something below directories only;
* **`maintains_makeDirs`** — making directories only adds to a disk;
* **`Room`** — a name in a directory is free; **`Room.put`** — what comes to be there is found there;
* **`addWith_child`**, **`makeDirWithParents_child`** — nothing changes unless there is room;
* **`makeDirWithParents_of_isDirectory`** — nothing changes where the directory is.
-/
import Mathlib.Data.List.Induction
import RpmProvision.Disk.Directories
import RpmProvision.Proofs.Disk.Apart
import RpmProvision.Proofs.Disk.Child

namespace RpmProvision.Disk

open Step

/-- The second disk has everything that the first one has, untouched. Only the file at one location,
which the log may be written to, may hold something else. -/
structure Grows (log : Option Location) (d d' : Disk) : Prop where
  retains : Retains d d'
  untouched : ∀ l, log ≠ some l → d.entryAt l ≠ none → Untouched l d d'

namespace Grows

variable {log : Option Location} {d d' d'' : Disk}

theorem refl (d : Disk) : Grows log d d := ⟨.refl d, fun l _ _ => .refl l d⟩

theorem trans (h : Grows log d d') (h' : Grows log d' d'') : Grows log d d'' where
  retains := h.retains.trans h'.retains
  untouched l hlog hl := by
    have hd := h.untouched l hlog hl
    refine hd.trans (h'.untouched l hlog ?_)
    rw [hd.1]
    exact hl

theorem entryAt (h : Grows log d d') {l : Location} {e : Entry} (hlog : log ≠ some l)
    (he : d.entryAt l = some e) : d'.entryAt l = some e := by
  rw [(h.untouched l hlog (by simp [he])).1, he]

/-- A path goes on leading to a directory. -/
theorem leads_directory (h : Grows log d d') {p : Path} {l : Location}
    (hp : d.Leads p l .directory) : d'.Leads p l .directory :=
  hp.of_retains h.retains (h.retains.directory hp.entryAt) (by simp)

/-- A path goes on leading to a file, which holds what it held unless the log is written to it. -/
theorem leads_file (h : Grows log d d') {p : Path} {l : Location} {c : Bytes} (hlog : log ≠ some l)
    (hp : d.Leads p l (.file c)) : d'.Leads p l (.file c) :=
  hp.of_retains h.retains (h.entryAt hlog hp.entryAt) (by simp)

theorem admits (h : Grows log d d') {l : Location} {name : String} (hl : d.Admits l name) :
    d'.Admits l name where
  directory := h.retains.directory hl.directory
  search := by
    rw [h.retains.access l hl.directory]
    exact hl.search
  size := hl.size

end Grows

/-! ### New places -/

/-- A new place was used, and nothing else has changed. -/
theorem grows_of_new {d : Disk} (d' : Disk) {l : Location} (hnone : d.entryAt l = none)
    (hworking : d'.workingDir = d.workingDir) (h : ∀ l', l' ≠ l → Untouched l' d d')
    (log : Option Location) : Grows log d d' where
  retains := by
    have hne {l' : Location} {e : Entry} (he : d.entryAt l' = some e) : l' ≠ l := by
      rintro rfl
      rw [hnone] at he
      cases he
    refine ⟨hworking, fun l' e he => ?_, fun l' he => (h l' (hne he)).2⟩
    rw [(h l' (hne he)).1, he]
    rfl
  untouched l' _ hl' := by
    refine h l' ?_
    rintro rfl
    exact hl' hnone

/-- What stands elsewhere is not touched when an entry is put and it is said what may be done with
it. -/
theorem untouched_put_permit (d : Disk) {l l' : Location} (h : l' ≠ l) (e : Entry) (a : Access) :
    Untouched l' d ((d.put l e).permit l a) :=
  ⟨entryAt_put_of_ne d h e, (accessAt_permit_of_ne _ h a).trans rfl⟩

theorem grows_put_permit {d : Disk} {l : Location} (hnone : d.entryAt l = none) (e : Entry)
    (a : Access) (log : Option Location) : Grows log d ((d.put l e).permit l a) :=
  grows_of_new ((d.put l e).permit l a) hnone rfl
    (fun _ hne => untouched_put_permit d hne e a) log

/-- Something new in a directory leaves a tree. -/
theorem IsTree.put_new {d : Disk} (h : d.IsTree) {l : Location} (hnone : d.entryAt l = none)
    (hdir : d.entryAt l.dropLast = some .directory) (e : Entry) : (d.put l e).IsTree := by
  have hkept {l' : Location} (hl' : d.entryAt l' = some .directory) :
      (d.put l e).entryAt l' = some .directory := by
    rw [entryAt_put_of_ne d ?_, hl']
    rintro rfl
    rw [hnone] at hl'
    cases hl'
  intro l' e' he'
  by_cases heq : l' = l
  · rw [heq]
    exact hkept hdir
  · refine hkept (h l' e' ?_)
    rw [← SortedMap.find?_insert_of_ne d.entries e heq]
    exact he'

/-- In a tree there is something below directories only. -/
theorem IsTree.directory_of_below {d : Disk} (h : d.IsTree) {l : Location} {rest : List String}
    (hrest : rest ≠ []) {e : Entry} (he : d.entryAt (l ++ rest) = some e) :
    d.entryAt l = some .directory := by
  induction rest using List.reverseRecOn generalizing e with
  | nil => exact absurd rfl hrest
  | append_singleton front name ih =>
    have hparent := h.parent he
    rw [← List.append_assoc, List.dropLast_concat] at hparent
    by_cases hfront : front = []
    · rw [hfront, List.append_nil] at hparent
      exact hparent
    · exact ih hfront hparent

/-- The second location is below the first. -/
def Below (top l : Location) : Prop := ∃ rest, rest ≠ [] ∧ l = top ++ rest

theorem below_child (l : Location) (name : String) : Below l (l ++ [name]) := ⟨[name], by simp, rfl⟩

theorem Below.of_isPrefix {top l l' : Location} (hl : top <+: l) (h : Below l l') : Below top l' := by
  obtain ⟨more, rfl⟩ := hl
  obtain ⟨rest, hrest, rfl⟩ := h
  exact ⟨more ++ rest, by simp [hrest], List.append_assoc ..⟩

/-- Nothing stands below the location. -/
def Bare (d : Disk) (top : Location) : Prop := ∀ l, Below top l → d.entryAt l = none

theorem IsTree.bare {d : Disk} (h : d.IsTree) {l : Location}
    (hl : d.entryAt l ≠ some .directory) : d.Bare l := by
  rintro _ ⟨rest, hrest, rfl⟩
  rcases he : d.entryAt (l ++ rest) with _ | e
  · rfl
  · exact absurd (h.directory_of_below hrest he) hl

theorem Bare.put {d : Disk} {l : Location} (h : d.Bare l) (e : Entry) (a : Access) :
    ((d.put l e).permit l a).Bare l := by
  intro l' hl'
  refine (untouched_put_permit d ?_ e a).1.trans (h l' hl')
  obtain ⟨rest, hrest, rfl⟩ := hl'
  simp [hrest]

/-! ### Taking away -/

theorem not_isPrefixOf_iff {l l' : Location} : (!l.isPrefixOf l') = true ↔ ¬ l <+: l' := by
  rw [← List.isPrefixOf_iff_prefix, Bool.not_eq_true', Bool.not_eq_true]

/-- What a removal leaves is what does not stand at or below its location. -/
theorem entryAt_removeTree_eq_some {d : Disk} {l l' : Location} (hl : l ≠ []) {e : Entry} :
    (d.removeTree l).entryAt l' = some e ↔ d.entryAt l' = some e ∧ ¬ l <+: l' := by
  by_cases hnil : l' = []
  · rw [hnil, entryAt, entryAt, if_pos rfl, if_pos rfl, List.prefix_nil]
    exact ⟨fun h => ⟨h, hl⟩, And.left⟩
  · rw [entryAt_of_ne_nil _ hnil, entryAt_of_ne_nil _ hnil, ← not_isPrefixOf_iff]
    exact SortedMap.find?_filter_eq_some_iff

theorem untouched_removeTree (d : Disk) {l l' : Location} (hl : l ≠ []) (h : ¬ l <+: l') :
    Untouched l' d (d.removeTree l) := by
  refine ⟨Option.ext fun e => (entryAt_removeTree_eq_some hl).trans (and_iff_left h), ?_⟩
  have hfind : (d.removeTree l).access.find? l' = d.access.find? l' := by
    refine Option.ext fun a => SortedMap.find?_filter_eq_some_iff.trans (and_iff_left ?_)
    exact not_isPrefixOf_iff.mpr h
  rw [accessAt, accessAt, hfind]

/-- What was removed is all that the disk had before. -/
theorem retains_removeTree (d : Disk) {l : Location} (hl : l ≠ []) :
    Retains (d.removeTree l) d where
  workingDir := rfl
  entry l' e he := by
    rw [((entryAt_removeTree_eq_some hl).mp he).1]
    rfl
  access l' he :=
    (untouched_removeTree d hl ((entryAt_removeTree_eq_some hl).mp he).2).2.symm

theorem IsTree.removeTree {d : Disk} (h : d.IsTree) {l : Location} (hl : l ≠ []) :
    (d.removeTree l).IsTree := by
  intro l' e he
  obtain ⟨he, hkeep⟩ := SortedMap.find?_filter_eq_some_iff.mp he
  refine (entryAt_removeTree_eq_some hl).mpr ⟨h l' e he, fun hl' => ?_⟩
  exact not_isPrefixOf_iff.mp hkeep (hl'.trans (List.dropLast_prefix l'))

/-! ### Making directories -/

theorem isAbsolute_of_names_eq_nil {p : Path} (hp : pathFault? p = none) (h : p.names = []) :
    p.isAbsolute = true := by
  by_contra habs
  rw [Bool.not_eq_true] at habs
  obtain ⟨first, rest, hpieces⟩ := Path.exists_pieces p
  rw [Path.names, List.filter_eq_nil_iff, hpieces] at h
  obtain rfl : first = "" := by simpa using h first List.mem_cons_self
  have htext : p.text = "" := Path.text_eq_empty (by rw [hpieces, Path.eq_nil_of_relative habs hpieces])
  rw [pathFault?, if_pos htext] at hp
  cases hp

/-- A new entry is put where nothing is but a directory around it, or nothing changes. -/
theorem IsTree.addWith_cases {d : Disk} (h : d.IsTree) (a : Access) (p : Path) (e : Entry) :
    (∃ l, d.entryAt l = none ∧ d.entryAt l.dropLast = some .directory
        ∧ addWith a p e d = (.ok (), (d.put l e).permit l a))
      ∨ ∃ fault, addWith a p e d = (.error fault, d) := by
  unfold addWith
  rcases hr : d.resolveNames .entry p (p.pieces.filter (· ≠ "")) with fault | ⟨l, _ | e'⟩
  · exact .inr ⟨fault, rfl⟩
  · dsimp only
    by_cases hmay : d.mayChangeAround l
    · rw [if_pos hmay]
      refine .inl ⟨l, entryAt_of_resolveNames hr, ?_, rfl⟩
      rw [resolveNames] at hr
      cases hp : pathFault? p with
      | some fault =>
        rw [hp] at hr
        cases hr
      | none =>
        rw [hp] at hr
        have hstart : p.names = [] → d.entryAt (d.startOf p) = some .directory := by
          intro hnil
          rw [startOf, if_pos (isAbsolute_of_names_eq_nil hp hnil)]
          rfl
        rcases h.vacant_of_walk (by simp) hstart hr with hdir | ⟨-, hparent⟩ | ⟨c, hc⟩
        · rw [entryAt_of_walk hr] at hdir
          cases hdir
        · exact hparent
        · rw [entryAt_of_walk hr] at hc
          cases hc
    · rw [if_neg hmay]
      exact .inr ⟨.denied, rfl⟩
  · exact .inr ⟨.alreadyExists, rfl⟩

/-- The disk has grown from a first one, and is a tree. -/
def GrownTree (log : Option Location) (d₀ d : Disk) : Prop := Grows log d₀ d ∧ d.IsTree

theorem maintains_makeDir (log : Option Location) (d₀ : Disk) (p : Path) :
    Maintains (GrownTree log d₀) (makeDir p) := by
  refine ⟨fun d ⟨hgrows, htree⟩ => ?_⟩
  rcases htree.addWith_cases .full p .directory with ⟨l, hnone, hdir, hadd⟩ | ⟨fault, hadd⟩
  · rw [makeDir, add, hadd]
    exact ⟨hgrows.trans (grows_put_permit hnone _ _ log), htree.put_new hnone hdir _⟩
  · rw [makeDir, add, hadd]
    exact ⟨hgrows, htree⟩

/-- Making directories only adds to a disk. -/
theorem maintains_makeDirs (log : Option Location) (d₀ : Disk) (paths : List Path) :
    Maintains (GrownTree log d₀) (makeDirs paths) := by
  have hthere (p : Path) (fault : IoFault) :
      Maintains (GrownTree log d₀) (unlessThere p fault) := .of_eq fun _ => rfl
  induction paths with
  | nil => exact .fail _
  | cons p above ih =>
    rw [makeDirs]
    split_ifs
    · exact .pure _
    refine .bind (maintains_makeDir log d₀ p).outcome fun r => ?_
    rcases r with fault | _
    · by_cases hfault : fault = .notFound
      · subst hfault
        refine .bind ih fun _ => .bind (maintains_makeDir log d₀ p).outcome fun r => ?_
        rcases r with fault | _
        · exact hthere p fault
        · exact .pure _
      · cases fault with
        | notFound => exact absurd rfl hfault
        | _ => exact hthere p _
    · exact .pure _

theorem maintains_makeDirWithParents (log : Option Location) (d₀ : Disk) (p : Path) :
    Maintains (GrownTree log d₀) (makeDirWithParents p) := maintains_makeDirs log d₀ _

/-! ### New names in directories -/

/-- The path of a name in a directory leads to a place in it at which nothing is. -/
structure Room (d : Disk) (dir : Path) (l : Location) (name : String) : Prop where
  noFault : pathFault? (dir.child name) = none
  leads : d.Leads dir l .directory
  admits : d.Admits l name
  vacant : d.entryAt (l ++ [name]) = none

/-- What comes to be where there is room is found there, and nothing else changes. -/
theorem Room.put {d : Disk} {dir : Path} {l : Location} {name : String} (h : d.Room dir l name)
    (hname : Path.IsName name) {e : Entry} (hnolink : ∀ target, e ≠ .link target) (a : Access)
    (log : Option Location) :
    Grows log d ((d.put (l ++ [name]) e).permit (l ++ [name]) a)
      ∧ ((d.put (l ++ [name]) e).permit (l ++ [name]) a).find (dir.child name)
        = .ok (l ++ [name], e) := by
  have hgrows := grows_put_permit h.vacant e a log
  refine ⟨hgrows, (find_eq_ok_iff (Path.endsInSlash_child dir hname)).mpr ⟨h.noFault, ?_⟩⟩
  exact (hgrows.leads_directory h.leads).child hname (hgrows.admits h.admits)
    (entryAt_put_self d (by simp) e) hnolink

theorem IsTree.put_room {d : Disk} (htree : d.IsTree) {dir : Path} {l : Location} {name : String}
    (h : d.Room dir l name) (e : Entry) (a : Access) :
    ((d.put (l ++ [name]) e).permit (l ++ [name]) a).IsTree := by
  refine (htree.put_new h.vacant ?_ e).permit _ a
  rw [List.dropLast_concat]
  exact h.admits.directory

/-- The path leads to a directory in which there is nothing and with which everything may be done. -/
structure Fresh (d : Disk) (p : Path) (l : Location) : Prop where
  leads : d.Leads p l .directory
  bare : d.Bare l
  access : d.accessAt l = .full

theorem accessAt_permit_self (d : Disk) (l : Location) : (d.permit l .full).accessAt l = .full := by
  have hfind : (d.access.erase l).find? l = none := by
    refine Option.eq_none_iff_forall_not_mem.mpr fun a ha => ?_
    simpa using (SortedMap.find?_filter_eq_some_iff.mp ha).2
  rw [accessAt]
  show ((d.access.erase l).find? l).getD .full = .full
  rw [hfind]
  rfl

/-- What files hold does not matter. -/
theorem Fresh.alike {d d' : Disk} {p : Path} {l : Location} (h : d.Fresh p l) (halike : Alike d d') :
    d'.Fresh p l where
  leads := h.leads.of_retains (.of_alike halike)
    ((Retains.of_alike halike).directory h.leads.entryAt) (by simp)
  bare l' hl' := by
    have hshape := halike.entry l'
    rw [h.bare l' hl'] at hshape
    exact Option.map_eq_none_iff.mp hshape
  access := (halike.accessAt l).trans h.access

/-- A directory that is made in a tree is a fresh one. -/
theorem Room.fresh {d : Disk} {dir : Path} {l : Location} {name : String} (h : d.Room dir l name)
    (htree : d.IsTree) (hname : Path.IsName name) :
    (d.renew (l ++ [name]) .directory).Fresh (dir.child name) (l ++ [name]) where
  leads := ((find_eq_ok_iff (Path.endsInSlash_child dir hname)).mp
    (h.put hname (by simp) .full none).2).2
  bare := (htree.bare (by simp [h.vacant])).put .directory .full
  access := accessAt_permit_self _ _

/-- A new entry at the path of a name in a directory is put there, or nothing changes. -/
theorem addWith_child_cases (d : Disk) (dir : Path) {name : String} (hname : Path.IsName name)
    (a : Access) (e : Entry) :
    (∃ l, d.Room dir l name ∧ addWith a (dir.child name) e d
        = (.ok (), (d.put (l ++ [name]) e).permit (l ++ [name]) a))
      ∨ ∃ fault, addWith a (dir.child name) e d = (.error fault, d)
        ∧ (fault = .notFound → d.resolve .entry (dir.child name) = .error fault) := by
  have hresolve : d.resolveNames .entry (dir.child name)
      ((dir.child name).pieces.filter (· ≠ "")) = d.resolve .entry (dir.child name) := by
    rw [resolve, Path.namesOf_eq_names (Path.endsInSlash_child dir hname)]
    rfl
  unfold addWith
  rw [hresolve]
  rcases hr : d.resolve .entry (dir.child name) with fault | ⟨l', _ | e'⟩
  · exact .inr ⟨fault, rfl, fun _ => rfl⟩
  · obtain ⟨hfault, l, hleads, hadmits, rfl, hnone⟩ :=
      (resolve_child_iff hname fun hgoal => absurd rfl hgoal).mp hr
    dsimp only
    by_cases hmay : d.mayChangeAround (l ++ [name])
    · rw [if_pos hmay]
      exact .inl ⟨l, ⟨hfault, hleads, hadmits, hnone.symm⟩, rfl⟩
    · rw [if_neg hmay]
      exact .inr ⟨.denied, rfl, by simp⟩
  · exact .inr ⟨.alreadyExists, rfl, by simp⟩

/-- A new entry in something that is there is put there if there is room. Otherwise nothing changes,
and it is not for want of the way to it. -/
theorem addWith_child {d : Disk} {dir : Path} {l : Location} {name : String} {e₀ : Entry}
    (hname : Path.IsName name) (hleads : d.Leads dir l e₀) (a : Access) (e : Entry) :
    (d.Room dir l name ∧ addWith a (dir.child name) e d
        = (.ok (), (d.put (l ++ [name]) e).permit (l ++ [name]) a))
      ∨ ∃ fault, fault ≠ .notFound ∧ addWith a (dir.child name) e d = (.error fault, d) := by
  rcases d.addWith_child_cases dir hname a e with ⟨l₁, hroom, hadd⟩ | ⟨fault, hadd, hway⟩
  · obtain ⟨rfl, -⟩ := hroom.leads.unique hleads
    exact .inl ⟨hroom, hadd⟩
  · refine .inr ⟨fault, ?_, hadd⟩
    rintro rfl
    exact resolve_child_ne_notFound hname hleads (hway rfl)

/-- Making a directory that is there already changes nothing. -/
theorem makeDirWithParents_of_isDirectory {d : Disk} {p : Path} {l : Location} {e : Entry}
    (hempty : p.text ≠ "") (hthere : d.resolveNames .entry p p.names = .ok (l, some e))
    (hdir : d.isDirectory p) : makeDirWithParents p d = (.ok (), d) := by
  obtain ⟨above, habove⟩ := Path.ancestors_eq_cons p p.text.length
  have hmake : makeDir p d = (.error .alreadyExists, d) := by
    unfold makeDir add addWith
    rw [show p.pieces.filter (· ≠ "") = p.names from rfl, hthere]
  rw [makeDirWithParents, habove, makeDirs, if_neg hempty, bind_apply, outcome_apply, hmake]
  show ((if d.isDirectory p then .ok () else .error .alreadyExists : Except IoFault Unit), d) = _
  rw [if_pos hdir]

/-- Making a directory in one that is there makes just this one, if it is missing. -/
theorem makeDirWithParents_child {d : Disk} {dir : Path} {l : Location} {name : String} {e₀ : Entry}
    (hname : Path.IsName name) (hleads : d.Leads dir l e₀) :
    (d.Room dir l name ∧ makeDirWithParents (dir.child name) d
        = (.ok (), d.renew (l ++ [name]) .directory))
      ∨ ∃ r, makeDirWithParents (dir.child name) d = (r, d)
        ∧ (r = .ok () → d.isDirectory (dir.child name)) := by
  obtain ⟨above, habove⟩ := Path.ancestors_eq_cons (dir.child name) (dir.child name).text.length
  rw [makeDirWithParents, habove, makeDirs, if_neg (Path.text_child_ne_empty dir hname), bind_apply,
    outcome_apply, makeDir, add]
  rcases addWith_child hname hleads .full .directory with ⟨hroom, hadd⟩ | ⟨fault, hfault, hadd⟩
  · rw [hadd]
    exact .inl ⟨hroom, rfl⟩
  · rw [hadd]
    have hother : unlessThere (dir.child name) fault d
        = (if d.isDirectory (dir.child name) then .ok () else .error fault, d) := rfl
    refine .inr ⟨if d.isDirectory (dir.child name) then .ok () else .error fault, ?_, fun hok => ?_⟩
    · cases fault with
      | notFound => exact absurd rfl hfault
      | _ => exact hother
    · by_contra hdir
      rw [if_neg hdir] at hok
      cases hok

/-- Where nothing is, a directory that is made is a new one. -/
theorem room_of_makeDirWithParents {d d' : Disk} {dir : Path} {l : Location} {name : String}
    (hname : Path.IsName name) (hleads : d.Leads dir l .directory)
    (hnone : d.entryAt (l ++ [name]) = none)
    (h : makeDirWithParents (dir.child name) d = (.ok (), d')) :
    d.Room dir l name ∧ d' = d.renew (l ++ [name]) .directory := by
  rcases makeDirWithParents_child hname hleads with ⟨hroom, hmade⟩ | ⟨r, hmade, hthere⟩
  · cases hmade.symm.trans h
    exact ⟨hroom, rfl⟩
  · cases hmade.symm.trans h
    obtain ⟨l', hfind⟩ := isDirectory_iff.mp (hthere rfl)
    obtain ⟨-, he⟩ := location_of_find_child hleads hname (by simp [hnone]) hfind
    rw [hnone] at he
    cases he

end RpmProvision.Disk
