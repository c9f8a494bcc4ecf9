/-
Two spellings of a path.

Empty names and points stay where they are. So they may be left out on a way that ends in another
name, and texts that are the same path lead to the same file. Slashes behind a path do not change where
it leads, but make its text as long as one likes.

* **`walk_essential`** — a way without the names that stay where they are;
* **`Path.essential_of_sameAs`** — what is the same path has the same names apart from these;
* **`Leads.of_sameAs`** — the same path leads to the same file;
* **`find_slashed`** — a directory is found by its path with slashes behind it;
* **`Path.sameAs_child_slashed`** — and what stands in it has the same path.
-/
import RpmProvision.Proofs.Disk.Child

namespace RpmProvision

namespace Path

/-- The names that do not stay where they are. -/
def essential (names : List String) : List String := names.filter (!isIdle ·)

/-- The last name, if there is one, does not stay where it is. -/
def EndsProper (names : List String) : Prop := ∀ last ∈ names.getLast?, isIdle last = false

theorem EndsProper.of_cons {name : String} {rest : List String} (h : EndsProper (name :: rest)) :
    EndsProper rest := by
  intro last hlast
  refine h last ?_
  rw [Option.mem_def] at hlast ⊢
  rw [List.getLast?_cons, hlast]
  rfl

theorem EndsProper.append {names : List String} (h : EndsProper names) (hne : names ≠ [])
    (front : List String) : EndsProper (front ++ names) := by
  intro last hlast
  rw [Option.mem_def, List.getLast?_append_of_ne_nil _ hne] at hlast
  exact h last hlast

theorem EndsProper.of_suffix {names rest : List String} (h : EndsProper names)
    (hrest : rest <:+ names) : EndsProper rest := by
  obtain ⟨front, rfl⟩ := hrest
  induction front with
  | nil => exact h
  | cons name front ih => exact ih h.of_cons

theorem essential_cons_of_idle {name : String} {rest : List String} (h : isIdle name = true) :
    essential (name :: rest) = essential rest := List.filter_cons_of_neg (by simp [h])

theorem essential_cons_of_proper {name : String} {rest : List String} (h : isIdle name = false) :
    essential (name :: rest) = name :: essential rest := List.filter_cons_of_pos (by simp [h])

/-- The path of a name in a directory ends properly. -/
theorem EndsProper.names_child (dir : Path) {name : String} (h : IsName name) :
    EndsProper (dir.child name).names := by
  rw [Path.names_child dir h]
  refine EndsProper.append ?_ (List.cons_ne_nil _ _) _
  rintro last ⟨⟩
  simp [isIdle, h.ne_empty, h.ne_here]

/-- A way that ends properly has a name that does not stay where it is. -/
theorem EndsProper.essential_eq {names : List String} (h : EndsProper names) (hne : names ≠ []) :
    ∃ name rest, isIdle name = false ∧ essential names = name :: rest := by
  induction names with
  | nil => exact absurd rfl hne
  | cons name rest ih =>
    cases hidle : isIdle name with
    | false => exact ⟨name, _, hidle, essential_cons_of_proper hidle⟩
    | true =>
      have hrest : rest ≠ [] := by
        rintro rfl
        have hproper := h name rfl
        rw [hidle] at hproper
        cases hproper
      rw [essential_cons_of_idle hidle]
      exact ih h.of_cons hrest

theorem endsProper_essential (names : List String) : EndsProper (essential names) := by
  intro last hlast
  have hmem := List.mem_of_getLast? hlast
  simpa using (List.mem_filter.mp hmem).2

theorem essential_append_essential (front rest : List String) :
    essential (front ++ essential rest) = essential (front ++ rest) := by
  simp [essential]

/-! ### Paths that are the same -/

/-- The piece that a component stands for, unless it stays where it is. -/
def pieceOf? : Component → Option String
  | .up => some ".."
  | .name n => some n
  | _ => none

theorem pieceOf?_componentOf {piece : String} (h : isIdle piece = false) :
    pieceOf? (componentOf piece) = some piece := by
  have hhere : piece ≠ "." := by
    rintro rfl
    cases h
  rw [componentOf, beq_eq_false_iff_ne.mpr hhere, if_neg (by decide)]
  by_cases hup : piece = ".."
  · rw [hup]
    rfl
  · rw [beq_eq_false_iff_ne.mpr hup, if_neg (by decide)]
    rfl

theorem filterMap_pieceOf?_counted (pieces : List String) :
    (counted pieces).filterMap pieceOf? = essential pieces := by
  induction pieces with
  | nil => rfl
  | cons piece rest ih =>
    cases hidle : isIdle piece with
    | true =>
      rw [essential_cons_of_idle hidle, ← ih, counted, counted, List.filter_cons_of_neg (by simp [hidle])]
    | false =>
      rw [essential_cons_of_proper hidle, ← ih, counted, counted,
        List.filter_cons_of_pos (by simp [hidle]), List.map_cons,
        List.filterMap_cons_some (pieceOf?_componentOf hidle)]

/-- The components of a path tell the names that do not stay where they are. -/
theorem filterMap_pieceOf?_components (p : Path) :
    p.components.filterMap pieceOf? = essential p.names := by
  have hnames : essential p.names = essential p.pieces := by
    rw [names, essential, essential, List.filter_filter]
    refine List.filter_congr fun piece _ => ?_
    by_cases h : piece = "" <;> simp [h, isIdle]
  obtain ⟨first, rest, hpieces⟩ := exists_pieces p
  rw [hnames, components, hpieces]
  show (_ ++ counted rest).filterMap pieceOf? = _
  rw [List.filterMap_append, filterMap_pieceOf?_counted]
  by_cases hempty : first = ""
  · subst hempty
    rw [essential_cons_of_idle rfl]
    cases rest <;> rfl
  · rw [beq_eq_false_iff_ne.mpr hempty, if_neg (by decide)]
    cases hidle : isIdle first with
    | true =>
      obtain rfl : first = "." := by simpa [isIdle, hempty] using hidle
      rfl
    | false =>
      rw [essential_cons_of_proper hidle, List.filterMap_cons_some (pieceOf?_componentOf hidle)]
      rfl

/-- A path is absolute if its first component is the root. -/
theorem isAbsolute_eq_components (p : Path) :
    p.isAbsolute = (p.components.head? == some .root) := by
  cases hp : p.isAbsolute with
  | true =>
    rw [isAbsolute, beq_iff_eq] at hp
    obtain ⟨rest, hrest⟩ : ∃ rest, p.text.toList = '/' :: rest := List.head?_eq_some_iff.mp hp
    have hpieces : p.pieces = "" :: (Text.splitAtEach '/' rest).map String.ofList := by
      rw [pieces, hrest]
      have hsplit := Text.splitAtEach_append '/' [] rest
      rw [List.nil_append] at hsplit
      rw [hsplit]
      rfl
    rw [components, hpieces]
    obtain ⟨piece, pieces, hsplit⟩ := List.exists_cons_of_ne_nil (Text.splitAtEach_ne_nil '/' rest)
    rw [hsplit]
    rfl
  | false =>
    obtain ⟨first, rest, hpieces⟩ := exists_pieces p
    rw [components, hpieces]
    by_cases hempty : first = ""
    · subst hempty
      rw [eq_nil_of_relative hp hpieces]
      rfl
    · have hlead : (componentsOf first rest).head? = some (componentOf first) := by
        simp [componentsOf, hempty]
      symm
      rw [hlead, beq_eq_false_iff_ne]
      intro hroot
      have hcomponent := Option.some.inj hroot
      rw [componentOf] at hcomponent
      split_ifs at hcomponent

/-- What is the same path starts from the same place, and has the same names apart from those that
stay where they are. -/
theorem essential_of_sameAs {p q : Path} (h : p.sameAs q) :
    p.isAbsolute = q.isAbsolute ∧ essential p.names = essential q.names := by
  rw [sameAs, beq_iff_eq] at h
  rw [isAbsolute_eq_components, isAbsolute_eq_components, ← filterMap_pieceOf?_components,
    ← filterMap_pieceOf?_components, h]
  exact ⟨rfl, rfl⟩

end Path

namespace Disk

open RpmProvision.Path

/-- How far names lead, without those of the rest that stay where they are. -/
def Stretch.essential : Stretch → Stretch
  | .atLink dir target rest => .atLink dir target (Path.essential rest)
  | s => s

/-- A way on which the names are left out that stay where they are. -/
theorem stretch_essential (d : Disk) (goal : Goal) (l : Location) {names : List String}
    (h : EndsProper names) :
    d.stretch goal l (Path.essential names) = (d.stretch goal l names).map Stretch.essential := by
  induction names generalizing l with
  | nil => rfl
  | cons name rest ih =>
    have hlast := h.of_cons
    cases hidle : isIdle name with
    | true =>
      -- the next name that does not stay asks for the directory as well, and to search it
      have hrest : rest ≠ [] := by
        rintro rfl
        have hproper := h name rfl
        rw [hidle] at hproper
        cases hproper
      rw [essential_cons_of_idle hidle]
      have hnext := ih l hlast
      obtain ⟨next, more, hproper, hmore⟩ := hlast.essential_eq hrest
      obtain ⟨hempty, hhere⟩ : next ≠ "" ∧ next ≠ "." := by simpa [isIdle] using hproper
      rw [Disk.stretch]
      rcases hl : d.entryAt l with _ | _ | _ | _
      · rw [hmore, Disk.stretch, hl]
        rfl
      · dsimp only
        by_cases hname : name = ""
        · rw [if_pos hname]
          exact hnext
        obtain rfl : name = "." := by simpa [isIdle, hname] using hidle
        rw [if_neg hname, if_pos rfl]
        by_cases hsearch : (!(d.accessAt l).search) = true
        · rw [if_pos hsearch, hmore, Disk.stretch, hl]
          dsimp only
          rw [if_neg hempty, if_pos hsearch]
          rfl
        · rw [if_neg hsearch]
          exact hnext
      · rw [hmore, Disk.stretch, hl]
        rfl
      · rw [hmore, Disk.stretch, hl]
        rfl
    | false =>
      obtain ⟨hempty, hhere⟩ : name ≠ "" ∧ name ≠ "." := by simpa [isIdle] using hidle
      have hnil : Path.essential rest = [] ↔ rest = [] := by
        refine ⟨fun hnone => ?_, fun hrest => by rw [hrest]; rfl⟩
        by_contra hrest
        obtain ⟨_, _, -, hmore⟩ := hlast.essential_eq hrest
        rw [hnone] at hmore
        cases hmore
      have hout : ¬ (goal = .output ∧ rest = [""]) := by
        rintro ⟨-, rfl⟩
        cases hlast "" rfl
      have hout' : ¬ (goal = .output ∧ Path.essential rest = [""]) := by
        rintro ⟨-, hmore⟩
        have hproper := endsProper_essential rest
        rw [hmore] at hproper
        cases hproper "" rfl
      rw [essential_cons_of_proper hidle, Disk.stretch, Disk.stretch]
      rcases d.entryAt l with _ | _ | _ | _
      · rfl
      · dsimp only
        rw [if_neg hempty, if_neg hempty]
        by_cases hsearch : (!(d.accessAt l).search) = true
        · rw [if_pos hsearch, if_pos hsearch]
          rfl
        rw [if_neg hsearch, if_neg hsearch, if_neg hhere, if_neg hhere]
        by_cases hup : name = ".."
        · rw [if_pos hup, if_pos hup]
          exact ih l.dropLast hlast
        rw [if_neg hup, if_neg hup, if_neg hout, if_neg hout']
        by_cases hsize : maxNameSize < name.utf8ByteSize
        · rw [if_pos hsize, if_pos hsize]
          rfl
        rw [if_neg hsize, if_neg hsize]
        rcases d.entryAt (l ++ [name]) with _ | _ | _ | target
        · dsimp only
          rw [if_congr hnil rfl rfl]
          by_cases hrest : rest = []
          · rw [if_pos hrest]
            rfl
          · rw [if_neg hrest]
            rfl
        · exact ih (l ++ [name]) hlast
        · exact ih (l ++ [name]) hlast
        · dsimp only
          rw [if_congr (and_congr_left' hnil) rfl rfl]
          by_cases hend : rest = [] ∧ goal = .entry
          · rw [if_pos hend, if_pos hend]
            rfl
          · rw [if_neg hend, if_neg hend]
            rfl
      · rfl
      · rfl

/-- What is left of a way at a link is the end of the way. -/
theorem suffix_of_stretch {d : Disk} {goal : Goal} {l dir : Location} {names rest : List String}
    {target : Path} (h : d.stretch goal l names = .ok (.atLink dir target rest)) :
    rest <:+ names := by
  fun_induction Disk.stretch d goal l names with
  | case2 l rest' hdir ih => exact (ih h).trans (List.suffix_cons ..)
  | case4 l rest' hdir _ _ ih => exact (ih h).trans (List.suffix_cons ..)
  | case5 l rest' hdir _ _ _ ih => exact (ih h).trans (List.suffix_cons ..)
  | case11 l name rest' hdir =>
    cases h
    exact List.suffix_cons ..
  | case12 l name rest' hdir _ _ _ _ _ _ e' _ _ ih => exact (ih h).trans (List.suffix_cons ..)
  | _ => cases h

/-- A way past all links on which the names are left out that stay where they are. -/
theorem walk_essential (d : Disk) (goal : Goal) (links : Nat) (l : Location) {names : List String}
    (h : EndsProper names) :
    d.walk goal links l (Path.essential names) = d.walk goal links l names := by
  induction links generalizing l names with
  | zero =>
    rw [walk.eq_def, walk.eq_def, d.stretch_essential goal l h]
    rcases d.stretch goal l names with _ | _ | _ <;> rfl
  | succ links ih =>
    rw [walk.eq_def, walk.eq_def, d.stretch_essential goal l h]
    rcases hs : d.stretch goal l names with _ | _ | ⟨dir, target, rest⟩
    · rfl
    · rfl
    · show d.walk goal links _ (namesOf target ++ Path.essential rest)
        = d.walk goal links _ (namesOf target ++ rest)
      by_cases hrest : rest = []
      · rw [hrest]
        rfl
      · -- the names of the target may stay where they are as long as others follow
        have hproper := h.of_suffix (suffix_of_stretch hs)
        obtain ⟨_, _, -, hmore⟩ := hproper.essential_eq hrest
        have hne : Path.essential rest ≠ [] := by
          rw [hmore]
          simp
        rw [← ih _ (hproper.append hrest (namesOf target)),
          ← ih _ ((endsProper_essential rest).append hne (namesOf target)),
          essential_append_essential]

/-- A way that leads to a file ends properly. -/
theorem endsProper_of_leads {d : Disk} {p : Path} {l : Location} {c : Bytes}
    (h : d.Leads p l (.file c)) : EndsProper p.names := by
  intro last hlast
  obtain ⟨front, hnames⟩ := List.getLast?_eq_some_iff.mp hlast
  have hempty : last ≠ "" := by
    have hmem : last ∈ p.names := List.mem_of_getLast? hlast
    simpa using (List.mem_filter.mp hmem).2
  by_contra hidle
  obtain rfl : last = "." := by simpa [isIdle, hempty] using hidle
  rw [Leads, hnames] at h
  rcases hwalk : d.walk .target maxLinks (d.startOf p) front with fault | ⟨l', e⟩
  · rw [walk_concat_of_error (by simp) hwalk] at h
    cases h
  · -- a point stays in a directory
    obtain ⟨herror, hok⟩ := walk_concat_of_ok .target (fun _ => hempty) hwalk
    rcases hs : d.stretch .target l' ["."] with fault | s
    · rw [herror fault hs] at h
      cases h
    · have hdir := directory_of_stretch_cons hs
      have hstay := hs
      rw [stretch, hdir] at hstay
      dsimp only at hstay
      rw [if_neg (by decide), if_pos rfl] at hstay
      split_ifs at hstay
      rw [stretch, hdir] at hstay
      cases hstay
      rw [hok _ _ hs] at h
      cases h

/-- The same path leads to the same file, if it does not end in a name that stays where it is. -/
theorem Leads.of_sameAs {d : Disk} {p q : Path} {l : Location} {c : Bytes}
    (h : d.Leads p l (.file c)) (hsame : p.sameAs q) (hq : EndsProper q.names) :
    d.Leads q l (.file c) := by
  obtain ⟨habs, hnames⟩ := essential_of_sameAs hsame
  have hp := endsProper_of_leads h
  rw [Leads, startOf, ← habs, ← walk_essential d .target _ _ hq, ← hnames,
    walk_essential d .target _ _ hp]
  exact h

end Disk

/-! ### Slashes behind a path -/

namespace Path

/-- A path with slashes behind it. -/
def slashed (p : Path) : Nat → Path
  | 0 => p
  | k + 1 => ⟨(p.slashed k).text ++ "/"⟩

theorem text_slashed_ne_empty {p : Path} (h : p.text ≠ "") (k : Nat) : (p.slashed k).text ≠ "" := by
  cases k with
  | zero => exact h
  | succ k =>
    intro hempty
    have hlength := congrArg String.length hempty
    simp [slashed] at hlength

theorem utf8ByteSize_slashed (p : Path) (k : Nat) :
    (p.slashed k).text.utf8ByteSize = p.text.utf8ByteSize + k := by
  induction k with
  | zero => rfl
  | succ k ih =>
    rw [slashed, String.utf8ByteSize_append, ih]
    rfl

/-- The path of a name in a directory is no shorter than that of the directory and the name. -/
theorem utf8ByteSize_le_child (dir : Path) {name : String} (h : IsName name) :
    dir.text.utf8ByteSize + name.utf8ByteSize ≤ (dir.child name).text.utf8ByteSize := by
  rw [child, join, if_neg (by simp [h.relative])]
  by_cases hdir : (dir.text == "" || dir.endsInSlash) = true
  · rw [if_pos hdir, String.utf8ByteSize_append]
  · rw [if_neg hdir, String.utf8ByteSize_append, String.utf8ByteSize_append]
    exact Nat.add_le_add_right (Nat.le_add_right _ _) _

theorem mem_slashed {p : Path} {k : Nat} {c : Char} (h : c ∈ (p.slashed k).text.toList) :
    c ∈ p.text.toList ∨ c = '/' := by
  induction k with
  | zero => exact .inl h
  | succ k ih =>
    rw [slashed, String.toList_append, List.mem_append] at h
    rcases h with h | h
    · exact ih h
    · exact .inr (List.mem_singleton.mp h)

theorem isAbsolute_slashed {p : Path} (h : p.text ≠ "") (k : Nat) :
    (p.slashed k).isAbsolute = p.isAbsolute := by
  induction k with
  | zero => rfl
  | succ k ih =>
    obtain ⟨c, cs, hcons⟩ := List.exists_cons_of_ne_nil
      (fun hnil => text_slashed_ne_empty h k (String.toList_eq_nil_iff.mp hnil))
    rw [← ih, isAbsolute, isAbsolute, slashed, String.toList_append, hcons]
    rfl

theorem pieces_slashed (p : Path) (k : Nat) :
    (p.slashed k).pieces = p.pieces ++ List.replicate k "" := by
  induction k with
  | zero => exact (List.append_nil _).symm
  | succ k ih =>
    have hclosed : (p.slashed k).text ++ "/" = (p.slashed k).text ++ "/" ++ "" :=
      String.append_empty.symm
    rw [slashed, hclosed, pieces_slash, List.replicate_succ', ← List.append_assoc, ← ih]
    rfl

theorem names_slashed (p : Path) (k : Nat) : (p.slashed k).names = p.names := by
  have hnone : (List.replicate k "").filter (· ≠ "") = [] := by
    refine List.filter_eq_nil_iff.mpr fun piece hpiece => ?_
    rw [List.eq_of_mem_replicate hpiece]
    decide
  rw [names, pieces_slashed, List.filter_append, hnone, List.append_nil, names]

/-- Slashes add no component to a path that has a text. -/
theorem components_slashed {p : Path} (h : p.text ≠ "") (k : Nat) :
    (p.slashed k).components = p.components := by
  induction k with
  | zero => rfl
  | succ k ih =>
    obtain ⟨first, rest, hpieces⟩ := exists_pieces (p.slashed k)
    have hlead : first ≠ "" ∨ rest ≠ [] := by
      by_contra hnone
      obtain ⟨hfirst, hrest⟩ := not_or.mp hnone
      refine text_slashed_ne_empty h k (text_eq_empty ?_)
      rw [hpieces, not_not.mp hfirst, not_not.mp hrest]
    have hclosed : (p.slashed (k + 1)).pieces = first :: (rest ++ [""]) := by
      rw [pieces_slashed, List.replicate_succ', ← List.append_assoc, ← pieces_slashed, hpieces]
      rfl
    rw [← ih, components, components, hclosed, hpieces]
    exact componentsOf_closed hlead

/-- What stands in a directory has the same path whether slashes are behind that of the directory or
not. -/
theorem sameAs_child_slashed {p : Path} (h : p.text ≠ "") {name : String} (hname : IsName name)
    (k : Nat) : (p.child name).sameAs ((p.slashed k).child name) := by
  rw [sameAs, beq_iff_eq, child, child, components_join h hname.relative,
    components_join (text_slashed_ne_empty h k) hname.relative, components_slashed h]

end Path

namespace Disk

theorem pathFault?_of_find {d : Disk} {p : Path} {l : Location} {e : Entry}
    (h : d.find p = .ok (l, e)) : pathFault? p = none := by
  rw [find, resolve, resolveNames] at h
  cases hp : pathFault? p with
  | none => rfl
  | some fault =>
    rw [hp] at h
    cases h

theorem text_ne_empty_of_pathFault? {p : Path} (h : pathFault? p = none) : p.text ≠ "" := by
  intro hempty
  rw [pathFault?, if_pos hempty] at h
  cases h

theorem utf8ByteSize_lt_of_pathFault? {p : Path} (h : pathFault? p = none) :
    p.text.utf8ByteSize < maxPathSize := by
  by_contra hlong
  rw [pathFault?, if_pos (Nat.le_of_not_lt hlong)] at h
  split_ifs at h

theorem pathFault?_slashed {p : Path} (h : pathFault? p = none) {k : Nat}
    (hsize : p.text.utf8ByteSize + k < maxPathSize) : pathFault? (p.slashed k) = none := by
  rw [pathFault?] at h
  split_ifs at h with hempty hzero
  rw [pathFault?, if_neg (Path.text_slashed_ne_empty hempty k), if_neg, if_neg]
  · rw [Path.utf8ByteSize_slashed]
    exact Nat.not_le_of_lt hsize
  · intro hin
    rcases Path.mem_slashed (List.contains_iff_mem.mp hin) with hin | hin
    · exact hzero (List.contains_iff_mem.mpr hin)
    · cases hin

/-- A directory is found under its path with slashes behind it, as long as the text is not too long. -/
theorem find_slashed {d : Disk} {p : Path} {l : Location} (h : d.find p = .ok (l, .directory))
    {k : Nat} (hsize : p.text.utf8ByteSize + k < maxPathSize) :
    d.find (p.slashed k) = .ok (l, .directory) := by
  cases k with
  | zero => exact h
  | succ k =>
    have hleads := leads_of_find h
    have hfault := pathFault?_of_find h
    have hempty := text_ne_empty_of_pathFault? hfault
    have hends : (p.slashed (k + 1)).endsInSlash = true := by
      rw [Path.endsInSlash, Path.slashed, String.toList_append]
      simp
    have hnames : namesOf (p.slashed (k + 1)) = p.names ++ [""] := by
      rw [namesOf, if_pos hends, ← Path.names_slashed p (k + 1)]
      rfl
    have hstay : d.stretch .target l [""] = .ok (.arrived l (some .directory)) := by
      rw [stretch, hleads.entryAt]
      dsimp only
      rw [if_pos rfl, stretch, hleads.entryAt]
    have hwalk := (walk_concat_of_ok .target (by simp) hleads).2 l _ hstay
    rw [find, resolve, resolveNames, pathFault?_slashed hfault hsize, hnames, startOf,
      Path.isAbsolute_slashed hempty]
    dsimp only
    rw [startOf] at hwalk
    rw [hwalk]

end Disk

end RpmProvision
