/-
Where a name in a directory leads.

The path of a name in a directory has the names of the directory's path, and this one behind them. So
it leads past the same links to the directory, and from there to the name.

* **`Path.names_child`** — the names of a path to a name in a directory;
* **`walk_concat_of_ok`**, **`walk_concat_of_error`** — a way with a further name at its end;
* **`resolve_child_iff`** — where the path of a name in a directory ends;
* **`Leads.child`**, **`location_of_find_child`** — what is found there, unless it is a link.
-/
import RpmProvision.Proofs.Disk.Standing

namespace RpmProvision

namespace Path

/-- The names of a path, whether it ends in a slash or not. -/
def names (p : Path) : List String := p.pieces.filter (· ≠ "")

theorem namesOf_eq_names {p : Path} (h : p.endsInSlash = false) : Disk.namesOf p = p.names := by
  rw [Disk.namesOf, h]
  exact List.append_nil _

theorem IsName.relative {name : String} (h : IsName name) : isAbsolute ⟨name⟩ = false := by
  rw [isAbsolute, beq_eq_false_iff_ne]
  intro hhead
  exact h.no_slash (List.mem_of_head? hhead)

theorem IsName.pieces {name : String} (h : IsName name) : pieces ⟨name⟩ = [name] := by
  simp [Path.pieces, Text.splitAtEach_of_not_mem h.no_slash]

/-- The text of a name in a directory: a slash is put between unless one is there. -/
theorem text_child (dir : Path) {name : String} (h : IsName name) :
    (dir.child name).text = name ∧ dir.text = ""
      ∨ ∃ front, (dir.child name).text = front ++ "/" ++ name
        ∧ (dir.text = front ∧ front ≠ "" ∨ dir.text = front ++ "/") := by
  rw [child, join, h.relative, if_neg (by decide)]
  by_cases hempty : dir.text = ""
  · rw [if_pos (by simp [hempty])]
    exact .inl ⟨by simp [hempty], hempty⟩
  · cases hslash : dir.endsInSlash with
    | false =>
      rw [if_neg (by simp [hempty])]
      exact .inr ⟨dir.text, rfl, .inl ⟨rfl, hempty⟩⟩
    | true =>
      rw [if_pos (by simp)]
      rw [endsInSlash, beq_iff_eq] at hslash
      obtain ⟨front, hfront⟩ := List.getLast?_eq_some_iff.mp hslash
      have htext : dir.text = String.ofList front ++ "/" := by
        apply String.ext
        rw [hfront, String.toList_append, String.toList_ofList]
        rfl
      exact .inr ⟨String.ofList front, by rw [htext], .inr htext⟩

/-- The names of a path to a name in a directory. -/
theorem names_child (dir : Path) {name : String} (h : IsName name) :
    (dir.child name).names = dir.names ++ [name] := by
  have hself : [name].filter (· ≠ "") = [name] := by simp [h.ne_empty]
  obtain ⟨dtext⟩ := dir
  rcases text_child ⟨dtext⟩ h with ⟨htext, hempty⟩ | ⟨front, htext, hdir⟩
  · have hnone : names ⟨dtext⟩ = [] := by
      rw [show dtext = "" from hempty]
      rfl
    have hchild : (child ⟨dtext⟩ name).pieces = [name] := by
      rw [← h.pieces, pieces, htext]
      rfl
    rw [hnone, names, hchild, hself]
    rfl
  · have hchild : (child ⟨dtext⟩ name).pieces = pieces ⟨front⟩ ++ [name] := by
      rw [← h.pieces, ← pieces_slash, pieces, htext]
      rfl
    have hnames : names ⟨dtext⟩ = (pieces ⟨front⟩).filter (· ≠ "") := by
      rcases hdir with ⟨hdir, -⟩ | hdir
      · rw [← show dtext = front from hdir]
        rfl
      · have hclosed : dtext = front ++ "/" ++ "" := by
          rw [String.append_empty]
          exact hdir
        rw [names, hclosed, pieces_slash, List.filter_append]
        exact List.append_nil _
    rw [hnames, names, hchild, List.filter_append, hself]

theorem isAbsolute_child (dir : Path) {name : String} (h : IsName name) :
    (dir.child name).isAbsolute = dir.isAbsolute := by
  rw [isAbsolute, isAbsolute]
  rcases text_child dir h with ⟨htext, hempty⟩ | ⟨front, htext, hdir⟩
  · rw [htext, hempty]
    exact h.relative
  · rw [htext, String.toList_append, String.toList_append]
    rcases hdir with ⟨hdir, hne⟩ | hdir
    · obtain ⟨c, cs, hcons⟩ := List.exists_cons_of_ne_nil
        (fun hnil => hne (String.toList_eq_nil_iff.mp hnil) : front.toList ≠ [])
      rw [hdir, hcons]
      rfl
    · rw [hdir, String.toList_append]
      cases front.toList <;> rfl

theorem endsInSlash_child (dir : Path) {name : String} (h : IsName name) :
    (dir.child name).endsInSlash = false := by
  have hlast (front : List Char) : (front ++ name.toList).getLast? ≠ some '/' := by
    obtain ⟨last, c, hc⟩ : ∃ last c, name.toList = last ++ [c] :=
      ⟨_, _, (List.dropLast_concat_getLast
        fun hnil => h.ne_empty (String.toList_eq_nil_iff.mp hnil)).symm⟩
    rw [hc, ← List.append_assoc, List.getLast?_concat]
    intro heq
    refine h.no_slash ?_
    rw [hc, ← Option.some.inj heq]
    exact List.mem_append_right _ (List.mem_singleton_self _)
  rw [endsInSlash, beq_eq_false_iff_ne]
  rcases text_child dir h with ⟨htext, -⟩ | ⟨front, htext, -⟩
  · rw [htext]
    exact hlast []
  · rw [htext, String.toList_append]
    exact hlast _

theorem text_child_ne_empty (dir : Path) {name : String} (h : IsName name) :
    (dir.child name).text ≠ "" := by
  rcases text_child dir h with ⟨htext, -⟩ | ⟨front, htext, -⟩
  · rw [htext]
    exact h.ne_empty
  · intro hempty
    have hlength := congrArg String.length (htext.symm.trans hempty)
    simp at hlength

end Path

namespace Disk

/-! ### A way with a further name -/

/-- A way with a further name at its end. -/
theorem stretch_concat (d : Disk) (goal : Goal) (l : Location) (names : List String) {name : String}
    (hname : goal = .output → name ≠ "") :
    d.stretch goal l (names ++ [name]) =
      match d.stretch .target l names with
      | .error fault => .error fault
      | .ok (.arrived l' _) => d.stretch goal l' [name]
      | .ok (.atLink dir target rest) => .ok (.atLink dir target (rest ++ [name])) := by
  induction names generalizing l with
  | nil => rfl
  | cons n rest ih =>
    have hout : ¬ (goal = .output ∧ rest ++ [name] = [""]) := by
      rintro ⟨hgoal, heq⟩
      cases rest with
      | nil => exact hname hgoal (List.singleton_inj.mp heq)
      | cons m more => simp at heq
    rw [List.cons_append, stretch, stretch]
    rcases hl : d.entryAt l with _ | _ | _ | _
    · rfl
    · dsimp only
      by_cases hempty : n = ""
      · rw [if_pos hempty, if_pos hempty]
        exact ih l
      by_cases hsearch : (!(d.accessAt l).search) = true
      · rw [if_neg hempty, if_neg hempty, if_pos hsearch, if_pos hsearch]
      by_cases hhere : n = "."
      · rw [if_neg hempty, if_neg hempty, if_neg hsearch, if_neg hsearch, if_pos hhere, if_pos hhere]
        exact ih l
      by_cases hup : n = ".."
      · rw [if_neg hempty, if_neg hempty, if_neg hsearch, if_neg hsearch, if_neg hhere, if_neg hhere,
          if_pos hup, if_pos hup]
        exact ih l.dropLast
      have hnoout : ¬ (Goal.target = .output ∧ rest = [""]) := by simp
      rw [if_neg hempty, if_neg hempty, if_neg hsearch, if_neg hsearch, if_neg hhere, if_neg hhere,
        if_neg hup, if_neg hup, if_neg hout, if_neg hnoout]
      by_cases hsize : maxNameSize < n.utf8ByteSize
      · rw [if_pos hsize, if_pos hsize]
      rw [if_neg hsize, if_neg hsize]
      rcases hn : d.entryAt (l ++ [n]) with _ | _ | _ | target
      · -- nothing can stand where nothing is
        cases rest with
        | cons m more => simp
        | nil => simp [stretch, hn]
      · exact ih (l ++ [n])
      · exact ih (l ++ [n])
      · simp
    · rfl
    · rfl

/-- Where a way ends that has a further name behind a way that leads somewhere. -/
theorem walk_concat_of_ok (goal : Goal) {name : String} (hname : goal = .output → name ≠ "")
    {d : Disk} {links : Nat} {l l' : Location} {names : List String} {e : Option Entry}
    (h : d.walk .target links l names = .ok (l', e)) :
    (∀ fault, d.stretch goal l' [name] = .error fault →
        d.walk goal links l (names ++ [name]) = .error fault)
      ∧ ∀ l'' e', d.stretch goal l' [name] = .ok (.arrived l'' e') →
        d.walk goal links l (names ++ [name]) = .ok (l'', e') := by
  fun_induction walk d .target links l names with
  | case2 links l names l₁ e₁ hs =>
    cases h
    have hconcat := d.stretch_concat goal l names hname
    rw [hs] at hconcat
    dsimp only at hconcat
    refine ⟨fun fault hf => ?_, fun l'' e' he' => walk_of_arrived (hconcat.trans he') links⟩
    rw [walk.eq_def, hconcat, hf]
  | case4 l names links dir target rest hs ih =>
    have hconcat := d.stretch_concat goal l names hname
    rw [hs] at hconcat
    rw [walk_of_atLink hconcat, ← List.append_assoc]
    exact ih h
  | _ => cases h

/-- A way that leads nowhere leads nowhere with a further name. -/
theorem walk_concat_of_error {d : Disk} {goal : Goal} {links : Nat} {l : Location}
    {names : List String} {name : String} {fault : IoFault} (hname : goal = .output → name ≠ "")
    (h : d.walk .target links l names = .error fault) :
    d.walk goal links l (names ++ [name]) = .error fault := by
  fun_induction walk d .target links l names with
  | case1 links l names fault' hs =>
    have hconcat := d.stretch_concat goal l names hname
    rw [hs] at hconcat
    cases h
    rw [walk.eq_def, hconcat]
  | case3 l names dir target rest hs =>
    have hconcat := d.stretch_concat goal l names hname
    rw [hs] at hconcat
    cases h
    rw [walk.eq_def, hconcat]
  | case4 l names links dir target rest hs ih =>
    have hconcat := d.stretch_concat goal l names hname
    rw [hs] at hconcat
    rw [walk_of_atLink hconcat, ← List.append_assoc]
    exact ih h
  | case2 => cases h

/-- Where one proper name leads. -/
theorem stretch_name (d : Disk) (goal : Goal) (l : Location) {name : String}
    (h : Path.IsName name) :
    d.stretch goal l [name] =
      match d.entryAt l with
      | none => .error .notFound
      | some .directory =>
        if !(d.accessAt l).search then .error .denied
        else if maxNameSize < name.utf8ByteSize then .error .nameTooLong
        else
          match d.entryAt (l ++ [name]) with
          | some (.link target) =>
            if goal = .entry then .ok (.arrived (l ++ [name]) (some (.link target)))
            else .ok (.atLink l target [])
          | e => .ok (.arrived (l ++ [name]) e)
      | some _ => .error .notDirectory := by
  rw [stretch]
  rcases d.entryAt l with _ | _ | _ | _
  · rfl
  · have hout : ¬ (goal = .output ∧ ([] : List String) = [""]) := by simp
    dsimp only
    rw [if_neg h.ne_empty]
    by_cases hsearch : (!(d.accessAt l).search) = true
    · rw [if_pos hsearch, if_pos hsearch]
    rw [if_neg hsearch, if_neg hsearch, if_neg h.ne_here, if_neg h.ne_up, if_neg hout]
    by_cases hsize : maxNameSize < name.utf8ByteSize
    · rw [if_pos hsize, if_pos hsize]
    rw [if_neg hsize, if_neg hsize]
    rcases he : d.entryAt (l ++ [name]) with _ | _ | _ | target
    · rfl
    · simp [stretch, he]
    · simp [stretch, he]
    · simp
  · rfl
  · rfl

/-- There is a directory at the location, in which the name can be looked up. -/
structure Admits (d : Disk) (l : Location) (name : String) : Prop where
  directory : d.entryAt l = some .directory
  search : (d.accessAt l).search
  size : name.utf8ByteSize ≤ maxNameSize

theorem admits_iff {d : Disk} {l : Location} {name : String} :
    d.Admits l name ↔ d.entryAt l = some .directory ∧ (d.accessAt l).search
      ∧ name.utf8ByteSize ≤ maxNameSize :=
  ⟨fun h => ⟨h.directory, h.search, h.size⟩, fun ⟨hdir, hsearch, hsize⟩ => ⟨hdir, hsearch, hsize⟩⟩

/-- One proper name leads into a directory, and not past a link that has to be followed. -/
theorem stretch_name_eq_ok_iff {d : Disk} {goal : Goal} {l l' : Location} {name : String}
    {e : Option Entry} (h : Path.IsName name) :
    d.stretch goal l [name] = .ok (.arrived l' e) ↔
      d.Admits l name ∧ l' = l ++ [name] ∧ e = d.entryAt (l ++ [name])
        ∧ (goal = .entry ∨ ∀ target, e ≠ some (.link target)) := by
  rw [stretch_name d goal l h, admits_iff]
  rcases d.entryAt l with _ | _ | _ | _
  · simp
  · cases (d.accessAt l).search with
    | false => simp
    | true =>
      by_cases hsize : maxNameSize < name.utf8ByteSize
      · simp [hsize, Nat.not_le_of_lt hsize]
      · rcases d.entryAt (l ++ [name]) with _ | _ | _ | target
        · simp +contextual [hsize, Nat.le_of_not_lt hsize, eq_comm]
        · simp +contextual [hsize, Nat.le_of_not_lt hsize, eq_comm]
        · simp +contextual [hsize, Nat.le_of_not_lt hsize, eq_comm]
        · by_cases hgoal : goal = .entry
          · simp [hsize, Nat.le_of_not_lt hsize, hgoal, eq_comm]
          · simp +contextual [hsize, Nat.le_of_not_lt hsize, hgoal]
  · simp
  · simp

/-- One proper name stops short only at a link, which is to be followed. -/
theorem link_of_stretch_name {d : Disk} {goal : Goal} {l l' : Location} {name : String}
    {target : Path} {rest : List String} (h : Path.IsName name)
    (hs : d.stretch goal l [name] = .ok (.atLink l' target rest)) :
    goal ≠ .entry ∧ d.entryAt (l ++ [name]) = some (.link target) := by
  have hdir := directory_of_stretch_cons hs
  rw [stretch_name d goal l h, hdir] at hs
  dsimp only at hs
  by_cases hsearch : (!(d.accessAt l).search) = true
  · rw [if_pos hsearch] at hs
    cases hs
  by_cases hsize : maxNameSize < name.utf8ByteSize
  · rw [if_neg hsearch, if_pos hsize] at hs
    cases hs
  rw [if_neg hsearch, if_neg hsize] at hs
  rcases he : d.entryAt (l ++ [name]) with _ | _ | _ | target'
  · simp [he] at hs
  · simp [he] at hs
  · simp [he] at hs
  · rw [he] at hs
    dsimp only at hs
    by_cases hgoal : goal = .entry
    · rw [if_pos hgoal] at hs
      cases hs
    · rw [if_neg hgoal] at hs
      cases hs
      exact ⟨hgoal, rfl⟩

/-- A name in something that is there is not missed for want of the way to it. -/
theorem stretch_name_ne_notFound {d : Disk} {l : Location} {name : String} {e : Entry}
    (h : Path.IsName name) (he : d.entryAt l = some e) :
    d.stretch .entry l [name] ≠ .error .notFound := by
  rw [stretch_name d .entry l h, he]
  cases e with
  | file _ => simp
  | link _ => simp
  | directory =>
    dsimp only
    by_cases hsearch : (!(d.accessAt l).search) = true
    · rw [if_pos hsearch]
      simp
    by_cases hsize : maxNameSize < name.utf8ByteSize
    · rw [if_neg hsearch, if_pos hsize]
      simp
    rw [if_neg hsearch, if_neg hsize]
    rcases d.entryAt (l ++ [name]) with _ | _ | _ | _ <;> simp

/-- Where a way with a further name ends, unless that is at a link that has to be followed. -/
theorem walk_concat_eq_ok_iff {d : Disk} {goal : Goal} {links : Nat} {l l' : Location}
    {names : List String} {name : String} {e : Option Entry} (hname : goal = .output → name ≠ "")
    (hlink : ∀ l₀ e₀, d.walk .target links l names = .ok (l₀, e₀) → ∀ dir target rest,
      d.stretch goal l₀ [name] ≠ .ok (.atLink dir target rest)) :
    d.walk goal links l (names ++ [name]) = .ok (l', e) ↔
      ∃ l₀ e₀, d.walk .target links l names = .ok (l₀, e₀)
        ∧ d.stretch goal l₀ [name] = .ok (.arrived l' e) := by
  rcases hwalk : d.walk .target links l names with fault | ⟨l₀, e₀⟩
  · rw [walk_concat_of_error hname hwalk]
    simp
  · obtain ⟨herror, hok⟩ := walk_concat_of_ok goal hname hwalk
    rcases hs : d.stretch goal l₀ [name] with fault | ⟨l'', e''⟩ | ⟨dir, target, rest⟩
    · rw [herror fault hs]
      simp [hs]
    · rw [hok l'' e'' hs]
      simp [hs]
    · exact absurd hs (hlink l₀ e₀ hwalk dir target rest)

/-! ### The path of a name in a directory -/

/-- The names of the path lead to something at a location. -/
def Leads (d : Disk) (p : Path) (l : Location) (e : Entry) : Prop :=
  d.walk .target maxLinks (d.startOf p) p.names = .ok (l, some e)

instance (d : Disk) (p : Path) (l : Location) (e : Entry) : Decidable (d.Leads p l e) :=
  inferInstanceAs (Decidable (_ = _))

theorem Leads.entryAt {d : Disk} {p : Path} {l : Location} {e : Entry} (h : d.Leads p l e) :
    d.entryAt l = some e := entryAt_of_walk h

/-- A path leads to one place. -/
theorem Leads.unique {d : Disk} {p : Path} {l l' : Location} {e e' : Entry} (h : d.Leads p l e)
    (h' : d.Leads p l' e') : l = l' ∧ e = e' := by
  cases (show Except.ok (l, some e) = Except.ok (l', some e') from h.symm.trans h')
  exact ⟨rfl, rfl⟩

/-- A path leads where it led, if a file or a directory is there now. -/
theorem Leads.of_retains {d d' : Disk} {p : Path} {l : Location} {e e' : Entry} (h : d.Leads p l e)
    (hretains : Retains d d') (he' : d'.entryAt l = some e') (hnolink : ∀ target, e' ≠ .link target) :
    d'.Leads p l e' := by
  rw [Leads, hretains.startOf]
  exact hretains.walk (by decide) h he' hnolink

/-- What is found by a path that does not end in a slash. -/
theorem find_eq_ok_iff {d : Disk} {p : Path} (hp : p.endsInSlash = false) {l : Location} {e : Entry} :
    d.find p = .ok (l, e) ↔ pathFault? p = none ∧ d.Leads p l e := by
  rw [find, resolve, resolveNames, Path.namesOf_eq_names hp, Leads]
  cases pathFault? p with
  | some fault => simp
  | none =>
    rcases d.walk .target maxLinks (d.startOf p) p.names with _ | ⟨_, _ | _⟩ <;> simp

/-- A path at which something is found leads to that. -/
theorem leads_of_find {d : Disk} {p : Path} {l : Location} {e : Entry}
    (h : d.find p = .ok (l, e)) : d.Leads p l e := by
  cases hp : p.endsInSlash with
  | false => exact ((find_eq_ok_iff hp).mp h).2
  | true =>
    -- a slash behind the last name asks for a directory
    have hnames : namesOf p = p.names ++ [""] := by
      rw [namesOf, if_pos hp]
      rfl
    have hgoal : Goal.target = .output → "" ≠ "" := by simp
    rw [find, resolve, resolveNames, hnames] at h
    cases hfault : pathFault? p with
    | some fault =>
      rw [hfault] at h
      cases h
    | none =>
      rw [hfault] at h
      dsimp only at h
      rcases hwalk : d.walk .target maxLinks (d.startOf p) p.names with fault | ⟨l', e'⟩
      · rw [walk_concat_of_error hgoal hwalk] at h
        cases h
      · obtain ⟨herror, hok⟩ := walk_concat_of_ok .target hgoal hwalk
        have he' := entryAt_of_walk hwalk
        rcases he : d.entryAt l' with _ | _ | _ | _
        · rw [herror .notFound (by rw [stretch, he])] at h
          cases h
        · rw [hok l' (some .directory) (by rw [stretch, he]; simp [stretch, he])] at h
          cases h
          rw [Leads, hwalk, ← he', he]
        · rw [herror .notDirectory (by rw [stretch, he])] at h
          cases h
        · rw [herror .notDirectory (by rw [stretch, he])] at h
          cases h

variable {d : Disk} {dir : Path} {l : Location} {name : String}

theorem resolve_child (goal : Goal) (hname : Path.IsName name) :
    d.resolve goal (dir.child name) =
      match pathFault? (dir.child name) with
      | some fault => .error fault
      | none => d.walk goal maxLinks (d.startOf dir) (dir.names ++ [name]) := by
  have hnames : namesOf (dir.child name) = dir.names ++ [name] := by
    rw [Path.namesOf_eq_names (Path.endsInSlash_child dir hname), Path.names_child dir hname]
  have hstart : d.startOf (dir.child name) = d.startOf dir := by
    rw [startOf, startOf, Path.isAbsolute_child dir hname]
  unfold resolve resolveNames
  cases pathFault? (dir.child name) with
  | some fault => rfl
  | none =>
    dsimp only
    rw [hnames, hstart]

/-- Where the path of a name in a directory ends, unless it is at a link that has to be followed. -/
theorem resolve_child_iff {goal : Goal} (hname : Path.IsName name)
    (hlink : goal ≠ .entry → ∀ l target, d.Leads dir l .directory →
      d.entryAt (l ++ [name]) ≠ some (.link target)) {l' : Location} {e : Option Entry} :
    d.resolve goal (dir.child name) = .ok (l', e) ↔
      pathFault? (dir.child name) = none ∧ ∃ l, d.Leads dir l .directory ∧ d.Admits l name
        ∧ l' = l ++ [name] ∧ e = d.entryAt (l ++ [name]) := by
  rw [resolve_child goal hname]
  cases pathFault? (dir.child name) with
  | some fault => simp
  | none =>
    have hnolink : ∀ l₀ e₀, d.walk .target maxLinks (d.startOf dir) dir.names = .ok (l₀, e₀) →
        ∀ l' target rest, d.stretch goal l₀ [name] ≠ .ok (.atLink l' target rest) := by
      intro l₀ e₀ hwalk l' target rest hs
      have hentry := entryAt_of_walk hwalk
      rw [directory_of_stretch_cons hs] at hentry
      obtain ⟨hgoal, htarget⟩ := link_of_stretch_name hname hs
      exact hlink hgoal l₀ target (by rw [Leads, hwalk, ← hentry]) htarget
    dsimp only
    rw [walk_concat_eq_ok_iff (fun _ => hname.ne_empty) hnolink]
    constructor
    · rintro ⟨l, e₀, hwalk, hs⟩
      obtain ⟨hadmits, rfl, rfl, -⟩ := (stretch_name_eq_ok_iff hname).mp hs
      have hentry := entryAt_of_walk hwalk
      rw [hadmits.directory] at hentry
      exact ⟨rfl, l, by rw [Leads, hwalk, ← hentry], hadmits, rfl, rfl⟩
    · rintro ⟨-, l, hleads, hadmits, rfl, rfl⟩
      refine ⟨l, _, hleads, (stretch_name_eq_ok_iff hname).mpr ⟨hadmits, rfl, rfl, ?_⟩⟩
      by_cases hgoal : goal = .entry
      · exact .inl hgoal
      · exact .inr fun target => hlink hgoal l target hleads

/-- The path of a name in a directory leads to what stands there, unless that is a link. -/
theorem Leads.child (h : d.Leads dir l .directory) (hname : Path.IsName name)
    (hadmits : d.Admits l name) {e : Entry} (he : d.entryAt (l ++ [name]) = some e)
    (hnolink : ∀ target, e ≠ .link target) : d.Leads (dir.child name) (l ++ [name]) e := by
  have hstart : d.startOf (dir.child name) = d.startOf dir := by
    rw [startOf, startOf, Path.isAbsolute_child dir hname]
  rw [Leads, hstart, Path.names_child dir hname]
  refine (walk_concat_of_ok .target (fun _ => hname.ne_empty) h).2 _ _ ?_
  refine (stretch_name_eq_ok_iff hname).mpr ⟨hadmits, rfl, he.symm, .inr fun target heq => ?_⟩
  exact hnolink target (Option.some.inj heq)

/-- Where a path in a directory that is there ends, unless at a link that has to be followed. -/
theorem location_of_resolve_child {goal : Goal} {e₀ : Entry} (h : d.Leads dir l e₀)
    (hname : Path.IsName name)
    (hnolink : goal ≠ .entry → ∀ target, d.entryAt (l ++ [name]) ≠ some (.link target))
    {l' : Location} {e : Option Entry} (hr : d.resolve goal (dir.child name) = .ok (l', e)) :
    d.Leads dir l .directory ∧ l' = l ++ [name] ∧ e = d.entryAt (l ++ [name]) := by
  have hlink : goal ≠ .entry → ∀ l₁ target, d.Leads dir l₁ .directory →
      d.entryAt (l₁ ++ [name]) ≠ some (.link target) := by
    intro hgoal l₁ target h₁
    rw [(h₁.unique h).1]
    exact hnolink hgoal target
  obtain ⟨-, l₁, h₁, -, rfl, rfl⟩ := (resolve_child_iff hname hlink).mp hr
  obtain ⟨rfl, -⟩ := h₁.unique h
  exact ⟨h₁, rfl, rfl⟩

/-- Where a path in a directory leads that is found, unless a link stands there. -/
theorem location_of_find_child (h : d.Leads dir l .directory) (hname : Path.IsName name)
    (hnolink : ∀ target, d.entryAt (l ++ [name]) ≠ some (.link target)) {l' : Location} {e : Entry}
    (hfind : d.find (dir.child name) = .ok (l', e)) :
    l' = l ++ [name] ∧ d.entryAt (l ++ [name]) = some e := by
  rw [find] at hfind
  rcases hr : d.resolve .target (dir.child name) with fault | ⟨l₁, _ | e₁⟩
  · rw [hr] at hfind
    cases hfind
  · rw [hr] at hfind
    cases hfind
  · rw [hr] at hfind
    cases hfind
    obtain ⟨-, hl, he⟩ := location_of_resolve_child h hname (fun _ => hnolink) hr
    exact ⟨hl, he.symm⟩

/-- In a directory that is there, a name is not missed for want of the way to it. -/
theorem resolve_child_ne_notFound {e : Entry} (hname : Path.IsName name)
    (h : d.Leads dir l e) : d.resolve .entry (dir.child name) ≠ .error .notFound := by
  rw [resolve_child .entry hname]
  cases hp : pathFault? (dir.child name) with
  | some fault =>
    rw [pathFault?, if_neg (Path.text_child_ne_empty dir hname)] at hp
    split_ifs at hp with hzero hlong
    · cases hp
      simp
    · cases hp
      simp
  | none =>
    dsimp only
    intro hwalk
    obtain ⟨herror, hok⟩ := walk_concat_of_ok .entry (fun _ => hname.ne_empty) h
    have hne := stretch_name_ne_notFound hname h.entryAt
    rcases hs : d.stretch .entry l [name] with fault | ⟨l', e'⟩ | ⟨l', target, rest⟩
    · rw [herror fault hs] at hwalk
      rw [hs, Except.error.inj hwalk] at hne
      exact hne rfl
    · rw [hok l' e' hs] at hwalk
      cases hwalk
    · exact (link_of_stretch_name hname hs).1 rfl

end Disk

end RpmProvision
