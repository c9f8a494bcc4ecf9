/-
Where the members of an archive go.

Members are put below a directory, and nothing else is touched: the way to a member is looked up
before anything is put there, it must end inside the directory, and the name behind it is a proper
one. So a link in the archive leads no member out of the directory.

* **`Confined`** — nothing has changed but what is below a location;
* **`Confined.place`**, **`Confined.applyMode`** — a member is put in its place, below the location;
* **`maintains_unpackInto`** — whatever the archive, only what is below its directory changes;
* **`grown_of_extract`** — in a fresh directory nothing is touched that was there before.
-/
import RpmProvision.Archive.Worker
import RpmProvision.Proofs.Growth

namespace RpmProvision.Archive.Worker

open Step Disk

/-- From the first disk to the second nothing has changed but what is below the location. -/
structure Confined (top : Location) (d₀ d : Disk) : Prop where
  isTree : d.IsTree
  workingDir : d.workingDir = d₀.workingDir
  untouched : ∀ l, ¬ Below top l → Untouched l d₀ d

variable {top : Location} {d₀ d : Disk}

namespace Confined

theorem refl (h : d.IsTree) : Confined top d d := ⟨h, rfl, fun l _ => .refl l d⟩

theorem next (h : Confined top d₀ d) {d' : Disk} (htree : d'.IsTree)
    (hworking : d'.workingDir = d.workingDir) (hother : ∀ l, ¬ Below top l → Untouched l d d') :
    Confined top d₀ d' where
  isTree := htree
  workingDir := hworking.trans h.workingDir
  untouched l hl := (h.untouched l hl).trans (hother l hl)

/-- Where nothing was below the location, nothing that was there has changed. -/
theorem grows (h : Confined top d₀ d) (hbare : d₀.Bare top) (log : Option Location) :
    Grows log d₀ d where
  retains := by
    have hout {l : Location} {e : Entry} (he : d₀.entryAt l = some e) : ¬ Below top l := by
      intro hl
      rw [hbare l hl] at he
      cases he
    refine ⟨h.workingDir, fun l e he => ?_, fun l he => (h.untouched l (hout he)).2⟩
    rw [(h.untouched l (hout he)).1, he]
    rfl
  untouched l _ hl := h.untouched l fun hbelow => hl (hbare l hbelow)

theorem put (h : Confined top d₀ d) {dir : Path} {l : Location} {name : String}
    (hl : Below top (l ++ [name])) (hroom : d.Room dir l name) (e : Entry) (a : Access) :
    Confined top d₀ ((d.put (l ++ [name]) e).permit (l ++ [name]) a) := by
  refine h.next (h.isTree.put_room hroom e a) rfl fun l' hl' => ?_
  refine untouched_put_permit d ?_ e a
  rintro rfl
  exact hl' hl

theorem permit (h : Confined top d₀ d) {l : Location} (hl : Below top l) (a : Access) :
    Confined top d₀ (d.permit l a) := by
  refine h.next h.isTree rfl fun l' hl' => ⟨rfl, accessAt_permit_of_ne d ?_ a⟩
  rintro rfl
  exact hl' hl

theorem removeTree (h : Confined top d₀ d) {l : Location} (hl : Below top l) :
    Confined top d₀ (d.removeTree l) := by
  obtain ⟨rest, hrest, rfl⟩ := hl
  have hne : top ++ rest ≠ [] := fun hnil => hrest (List.append_eq_nil_iff.mp hnil).2
  refine h.next (h.isTree.removeTree hne) rfl fun l' hl' => untouched_removeTree d hne ?_
  rintro ⟨more, rfl⟩
  exact hl' ⟨rest ++ more, by simp [hrest], List.append_assoc ..⟩

end Confined

/-! ### What is put at a name inside -/

section Inside

variable {dir : Path} {l : Location} {name : String} (hname : Path.IsName name) (htop : top <+: l)

include hname htop

/-- A new entry is put below the location, or nothing changes. -/
theorem Confined.addWith (h : Confined top d₀ d)
    (hway : ∀ l', d.Leads dir l' .directory → l' = l) (a : Access) (e : Entry) :
    (∃ d', addWith a (dir.child name) e d = (.ok (), d') ∧ Confined top d₀ d'
        ∧ d'.Leads dir l .directory ∧ d'.entryAt (l ++ [name]) = some e)
      ∨ ∃ fault, addWith a (dir.child name) e d = (.error fault, d) := by
  rcases d.addWith_child_cases dir hname a e with ⟨l', hroom, hadd⟩ | ⟨fault, hadd, -⟩
  · obtain rfl := hway l' hroom.leads
    refine .inl ⟨_, hadd, h.put ((below_child l' name).of_isPrefix htop) hroom e a, ?_, ?_⟩
    · exact (grows_put_permit hroom.vacant e a none).leads_directory hroom.leads
    · exact entryAt_put_self d (by simp) e
  · exact .inr ⟨fault, hadd⟩

/-- An entry is put in the place of what is there, below the location. -/
theorem Confined.place (h : Confined top d₀ d) {e₀ : Entry} (hleads : d.Leads dir l e₀) (e : Entry) :
    Confined top d₀ (place (dir.child name) e d).2
      ∧ ((place (dir.child name) e d).1 = .ok () →
        (place (dir.child name) e d).2.Leads dir l .directory
          ∧ (place (dir.child name) e d).2.entryAt (l ++ [name]) = some e) := by
  unfold Worker.place
  rw [bind_apply, outcome_apply, add]
  rcases h.addWith hname htop (fun l' hl' => (hl'.unique hleads).1) .full e with
    ⟨d', hadd, hconfined, hput⟩ | ⟨fault, hadd⟩
  · rw [hadd]
    exact ⟨hconfined, fun _ => hput⟩
  · rw [hadd]
    dsimp only [andThen_ok]
    by_cases hthere : fault = .alreadyExists
    · subst hthere
      dsimp only
      rw [bind_apply, removeFile]
      rcases hr : d.resolve .entry (dir.child name) with fault | ⟨l', e'⟩
      · exact ⟨h, fun hok => by cases hok⟩
      obtain ⟨-, rfl, -⟩ := location_of_resolve_child hleads hname (fun hgoal => absurd rfl hgoal) hr
      -- once the entry is gone the way may lead nowhere, but nowhere else
      have hne : l ++ [name] ≠ [] := by simp
      have hremoved := h.removeTree ((below_child l name).of_isPrefix htop)
      have hway : ∀ l', (d.removeTree (l ++ [name])).Leads dir l' .directory → l' = l := by
        intro l' hl'
        have hd := hl'.of_retains (retains_removeTree d hne)
          ((entryAt_removeTree_eq_some hne).mp hl'.entryAt).1 (by simp)
        exact (hd.unique hleads).1
      have hagain := hremoved.addWith hname htop hway .full e
      rcases e' with _ | _ | _ | _
      · exact ⟨h, fun hok => by cases hok⟩
      · exact ⟨h, fun hok => by cases hok⟩
      all_goals
        dsimp only
        by_cases hmay : d.mayChangeAround (l ++ [name])
        · rw [if_pos hmay, andThen_ok]
          rcases hagain with ⟨d', hadd', hconfined, hput⟩ | ⟨fault, hadd'⟩
          · rw [hadd']
            exact ⟨hconfined, fun _ => hput⟩
          · rw [hadd']
            exact ⟨hremoved, fun hok => by cases hok⟩
        · rw [if_neg hmay]
          exact ⟨h, fun hok => by cases hok⟩
    · cases fault with
      | alreadyExists => exact absurd rfl hthere
      | _ => exact ⟨h, fun hok => by cases hok⟩

/-- A directory is put below the location, unless it is there. -/
theorem Confined.placeDirectory (h : Confined top d₀ d) {e₀ : Entry} (hleads : d.Leads dir l e₀) :
    Confined top d₀ (placeDirectory (dir.child name) d).2
      ∧ ((placeDirectory (dir.child name) d).1 = .ok () →
        (placeDirectory (dir.child name) d).2.Leads dir l .directory
          ∧ (placeDirectory (dir.child name) d).2.entryAt (l ++ [name]) = some .directory) := by
  unfold Worker.placeDirectory
  rw [bind_apply, outcome_apply, makeDir, add]
  rcases h.addWith hname htop (fun l' hl' => (hl'.unique hleads).1) .full .directory with
    ⟨d', hadd, hconfined, hput⟩ | ⟨fault, hadd⟩
  · rw [hadd]
    exact ⟨hconfined, fun _ => hput⟩
  · rw [hadd]
    dsimp only [andThen_ok]
    by_cases hthere : fault = .alreadyExists
    · subst hthere
      dsimp only
      rw [bind_apply, asks_apply, andThen_ok]
      rcases hr : d.resolve .entry (dir.child name) with fault | ⟨l', _ | _ | _ | _⟩
      · exact ⟨h, fun hok => by cases hok⟩
      · exact ⟨h, fun hok => by cases hok⟩
      · obtain ⟨hdir, -, he⟩ :=
          location_of_resolve_child hleads hname (fun hgoal => absurd rfl hgoal) hr
        exact ⟨h, fun _ => ⟨hdir, he.symm⟩⟩
      · exact ⟨h, fun hok => by cases hok⟩
      · exact ⟨h, fun hok => by cases hok⟩
    · cases fault with
      | alreadyExists => exact absurd rfl hthere
      | _ => exact ⟨h, fun hok => by cases hok⟩

/-- What is said of what stands below the location, unless it is a link. -/
theorem Confined.applyMode (h : Confined top d₀ d) (hleads : d.Leads dir l .directory)
    (hnolink : ∀ target, d.entryAt (l ++ [name]) ≠ some (.link target)) (m : Tar.Member) :
    Confined top d₀ (applyMode (dir.child name) m d).2 := by
  unfold Worker.applyMode
  cases m.mode with
  | none => exact h
  | some mode =>
    dsimp only
    rw [mapError_apply, setAccess]
    rcases hfind : d.find (dir.child name) with fault | ⟨l', e⟩
    · exact h
    · obtain ⟨rfl, -⟩ := location_of_find_child hleads hname hnolink hfind
      exact h.permit ((below_child l name).of_isPrefix htop) _

/-- The content of a member is put below the location. -/
theorem Confined.placeMember (h : Confined top d₀ d) {e₀ : Entry} (hleads : d.Leads dir l e₀)
    (dest : Path) (m : Tar.Member) :
    Confined top d₀ (placeMember dest (dir.child name) m d).2 := by
  unfold Worker.placeMember
  rcases m.content with _ | ⟨content, isWhole⟩ | target | target | _
  · -- a directory
    dsimp only
    obtain ⟨hconfined, hput⟩ := h.placeDirectory hname htop hleads
    rw [bind_apply, mapError_apply]
    rcases hr : Worker.placeDirectory (dir.child name) d with ⟨fault | _, d'⟩
    · rw [hr] at hconfined
      exact hconfined
    · rw [hr] at hconfined hput
      obtain ⟨hdir, hentry⟩ := hput rfl
      exact hconfined.applyMode hname htop hdir (by simp [hentry]) m
  · -- a file
    dsimp only
    obtain ⟨hconfined, hput⟩ := h.place hname htop hleads (.file content)
    rw [bind_apply, mapError_apply]
    rcases hr : Worker.place (dir.child name) (.file content) d with ⟨fault | _, d'⟩
    · rw [hr] at hconfined
      exact hconfined
    · rw [hr] at hconfined hput
      obtain ⟨hdir, hentry⟩ := hput rfl
      cases isWhole with
      | true => exact hconfined.applyMode hname htop hdir (by simp [hentry]) m
      | false => exact hconfined
  · -- a symbolic link
    dsimp only
    by_cases hempty : target = ""
    · rw [if_pos hempty]
      exact h
    · rw [if_neg hempty, mapError_apply, placeLink]
      cases pathFault? ⟨target⟩ with
      | some fault => exact h
      | none => exact (h.place hname htop hleads (.link ⟨target⟩)).1
  · -- a second name of a file
    dsimp only
    by_cases hempty : target = ""
    · rw [if_pos hempty]
      exact h
    · have hcheck : (checkInside dest (dest.child target) d).2 = d := rfl
      rw [if_neg hempty, bind_apply]
      rcases hr : checkInside dest (dest.child target) d with ⟨fault | _, d'⟩
      · rw [hr] at hcheck
        obtain rfl : d' = d := hcheck
        exact h
      · rw [hr] at hcheck
        obtain rfl : d' = d := hcheck
        rw [andThen_ok, mapError_apply, addName]
        rcases d'.resolve .entry (dest.child target) with fault | ⟨l', _ | _ | _ | _⟩
        · exact h
        · exact h
        · exact h
        all_goals
          dsimp only
          rcases h.addWith hname htop (fun l' hl' => (hl'.unique hleads).1) (d'.accessAt l') _ with
            ⟨d₁, hadd, hconfined, -⟩ | ⟨fault, hadd⟩
          · rw [hadd]
            exact hconfined
          · rw [hadd]
            exact h
  · exact h

end Inside

/-! ### Members -/

/-- The names that lead to a member are proper ones. -/
theorem isName_of_mem_namesOf {m : Tar.Member} {names : List String} (h : namesOf m = some names) :
    ∀ name ∈ names, Path.IsName name := by
  rw [namesOf] at h
  split_ifs at h
  cases h
  intro name hname
  obtain ⟨component, hmem, hcomponent⟩ := List.mem_filterMap.mp hname
  cases component with
  | name n =>
    cases hcomponent
    exact Path.isName_of_mem_components hmem
  | _ => cases hcomponent

section Members

variable {dest : Path} (hdest : d₀.Leads dest top .directory) (hslash : dest.endsInSlash = false)
  (hbare : d₀.Bare top)

include hdest hslash hbare

/-- What was found to be inside of the directory is at the location or below it. -/
theorem Confined.of_checkInside (h : Confined top d₀ d) {p : Path} (hp : p.endsInSlash = false)
    {d' : Disk} (hcheck : checkInside dest p d = (.ok (), d')) :
    d' = d ∧ ∃ l e, d.Leads p l e ∧ top <+: l := by
  obtain ⟨hfst, rfl⟩ := Prod.mk.inj hcheck
  refine ⟨rfl, ?_⟩
  rcases hfinddest : d.find dest with fault | ⟨top', _⟩
  · rw [hfinddest] at hfst
    cases hfst
  rcases hfind : d.find p with fault | ⟨l, e⟩
  · rw [hfinddest, hfind] at hfst
    cases hfst
  rw [hfinddest, hfind] at hfst
  dsimp only at hfst
  split_ifs at hfst with hwithin
  have hleads := (h.grows hbare none).leads_directory hdest
  obtain ⟨rfl, -⟩ := ((find_eq_ok_iff hslash).mp hfinddest).2.unique hleads
  exact ⟨l, e, ((find_eq_ok_iff hp).mp hfind).2, List.isPrefixOf_iff_prefix.mp hwithin⟩

/-- The directories on the way to a member are made below the location. -/
theorem maintains_makeWay {p : Path} (hp : p.endsInSlash = false) {names : List String}
    (hnames : ∀ name ∈ names, Path.IsName name) :
    Maintains (Confined top d₀) (makeWay dest p names) := by
  induction names generalizing p with
  | nil => exact .pure _
  | cons name rest ih =>
    have hname := hnames name List.mem_cons_self
    have hrest := ih (Path.endsInSlash_child p hname)
      fun n hn => hnames n (List.mem_cons_of_mem _ hn)
    -- a directory is made where there is none, and then the way goes on
    have hmake : Maintains (Confined top d₀) (do
        checkInside dest p
        (makeDirWithParents (p.child name)).mapError Fault.io) := by
      refine ⟨fun d hd => ?_⟩
      rw [bind_apply]
      rcases hcheck : checkInside dest p d with ⟨fault | _, d'⟩
      · obtain rfl : d = d' := congrArg Prod.snd hcheck
        exact hd
      · obtain ⟨rfl, l, e, hleads, htop⟩ := hd.of_checkInside hdest hslash hbare hp hcheck
        rw [andThen_ok, mapError_apply]
        rcases makeDirWithParents_child hname hleads with ⟨hroom, hmade⟩ | ⟨r, hmade, -⟩
        · rw [hmade]
          exact hd.put ((below_child l name).of_isPrefix htop) hroom .directory .full
        · rw [hmade]
          exact hd
    have hgo := hmake.bind fun _ => hrest
    rw [bind_assoc] at hgo
    rw [makeWay]
    refine .bind (.asks _) fun r => ?_
    rcases r with _ | ⟨_, _ | _⟩
    · exact hgo
    · exact hgo
    · exact hrest

omit hdest hbare in
theorem endsInSlash_foldl_child {names : List String} (hnames : ∀ name ∈ names, Path.IsName name) :
    (names.foldl Path.child dest).endsInSlash = false := by
  induction names generalizing dest with
  | nil => exact hslash
  | cons name rest ih =>
    exact ih (Path.endsInSlash_child dest (hnames name List.mem_cons_self))
      fun n hn => hnames n (List.mem_cons_of_mem _ hn)

/-- A member is put below the location. -/
theorem maintains_unpackMember (m : Tar.Member) :
    Maintains (Confined top d₀) (unpackMember dest m) := by
  rw [unpackMember]
  rcases hnames : namesOf m with _ | _ | ⟨first, more⟩
  · exact .pure _
  · exact .pure _
  · have hproper := isName_of_mem_namesOf hnames
    obtain ⟨way, last, hsplit⟩ : ∃ way last, first :: more = way ++ [last] :=
      ⟨_, _, (List.dropLast_concat_getLast (List.cons_ne_nil first more)).symm⟩
    dsimp only
    rw [hsplit] at hproper ⊢
    rw [List.dropLast_concat, List.foldl_concat]
    have hway : ∀ name ∈ way, Path.IsName name := fun n hn => hproper n (List.mem_append_left _ hn)
    have hlast : Path.IsName last :=
      hproper last (List.mem_append_right _ (List.mem_singleton_self last))
    refine .bind (maintains_makeWay hdest hslash hbare hslash hway) fun _ => ⟨fun d hd => ?_⟩
    rw [bind_apply]
    rcases hcheck : checkInside dest (way.foldl Path.child dest) d with ⟨fault | _, d'⟩
    · obtain rfl : d = d' := congrArg Prod.snd hcheck
      exact hd
    · obtain ⟨rfl, l, e, hleads, htop⟩ := hd.of_checkInside hdest hslash hbare
        (endsInSlash_foldl_child hslash hway) hcheck
      exact hd.placeMember hlast htop hleads dest m

/-- Whatever is in an archive, unpacking it only changes what is below its directory. -/
theorem maintains_unpackInto (archive : Tar.Listing) :
    Maintains (Confined top d₀) (unpackInto dest archive) := by
  have hmembers (members : List Tar.Member) :
      Maintains (Confined top d₀) (members.forM (unpackMember dest)) :=
    .forM (maintains_unpackMember hdest hslash hbare) members
  rw [unpackInto]
  refine .bind (hmembers _) fun _ => ?_
  by_cases hsound : archive.isSound = true
  · rw [if_pos hsound]
    exact hmembers (lateMembers archive)
  · rw [if_neg hsound]
    exact .fail _

end Members

/-- An archive that is unpacked under a name in a fresh directory touches nothing that was there
before, and puts nothing under another name. -/
theorem grown_of_extract {archive scratch : Path} {name : String} (hname : Path.IsName name)
    {w w' : World} (htree : w.disk.IsTree) {l : Location} (hfresh : w.disk.Fresh scratch l)
    (h : extract archive (scratch.child name) w = (.ok (), w')) :
    World.Grown w w' ∧ ∀ other, other ≠ name → w'.disk.entryAt (l ++ [other]) = none := by
  obtain ⟨_, logged, hlog, h⟩ := bind_eq_ok.mp h
  obtain ⟨e, rfl⟩ : ∃ e, logged = w.recordAll [e] := ⟨_, (congrArg Prod.snd hlog).symm⟩
  obtain ⟨unpacked, w₁, hopen, h⟩ := bind_eq_ok.mp h
  obtain ⟨-, rfl⟩ := Prod.mk.inj (mapError_eq_ok hopen)
  obtain ⟨_, w₂, hmake, hunpack⟩ := bind_eq_ok.mp h
  obtain ⟨made, hmade, rfl⟩ := World.onDisk_eq_ok (mapError_eq_ok hmake)
  obtain ⟨d, hunpacked, rfl⟩ := World.onDisk_eq_ok (mapError_eq_ok hunpack)
  have hlogged := World.grown_recordAll htree [e]
  have hscratch := hfresh.alike (w.alike_recordAll [e])
  obtain ⟨hroom, rfl⟩ := room_of_makeDirWithParents hname hscratch.leads
    (hscratch.bare _ (below_child l name)) hmade
  have hdest := hroom.fresh hlogged.isTree hname
  have hconfined := (maintains_unpackInto hdest.leads (Path.endsInSlash_child scratch hname)
    hdest.bare (Tar.members unpacked)).of_run _ (.refl (hlogged.isTree.put_room hroom _ _))
  dsimp only at hunpacked
  rw [hunpacked] at hconfined
  refine ⟨hlogged.trans (.of_disk ?_ hconfined.isTree), fun other hother => ?_⟩
  · exact (hroom.put hname (by simp) .full _).1.trans (hconfined.grows hdest.bare _)
  · have hout : ¬ Below (l ++ [name]) (l ++ [other]) := by
      rintro ⟨rest, hrest, heq⟩
      have hlength := congrArg List.length heq
      simp only [List.length_append, List.length_singleton] at hlength
      exact hrest (List.eq_nil_of_length_eq_zero (by omega))
    have hne : l ++ [other] ≠ l ++ [name] := by simpa using hother
    have hother := (untouched_put_permit (w.recordAll [e]).disk hne .directory .full).trans
      (hconfined.untouched _ hout)
    exact hother.1.trans (hscratch.bare _ (below_child l other))

end RpmProvision.Archive.Worker
