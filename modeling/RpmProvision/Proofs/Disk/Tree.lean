/-
What a walk below a directory meets.

On a real disk everything stands in a directory, under a name that can be a part of a path. A walk
that may list and enter all directories meets everything there is below, except what a link leads to,
and the path that it has come by leads to what it has met.

* **`Proper`** — a disk as a file system keeps it;
* **`LiesBelow`** — names that lead through directories alone;
* **`Readable`** — a directory all of which can be walked through;
* **`Enterable`** — a directory all of which can at least be entered;
* **`Readable.mem_tree_iff`** — what a walk meets; **`Leads.below`** — where the path to it leads.
-/
import RpmProvision.Proofs.Disk.Growth

namespace RpmProvision.Disk

/-- Everything stands in a directory, under a proper name that is not too long. -/
structure Proper (d : Disk) : Prop where
  isTree : d.IsTree
  isName : ∀ l name e, d.entryAt (l ++ [name]) = some e → Path.IsName name
  size : ∀ l name e, d.entryAt (l ++ [name]) = some e → name.utf8ByteSize ≤ maxNameSize

/-- What holds of every name on the disk is seen from its entries. -/
theorem Proper.of_entries {d : Disk} (htree : d.IsTree)
    (h : ∀ p ∈ d.entries.entries, ∀ name ∈ p.1.getLast?,
      Path.IsName name ∧ name.utf8ByteSize ≤ maxNameSize) : d.Proper := by
  have hall : ∀ l name e, d.entryAt (l ++ [name]) = some e →
      Path.IsName name ∧ name.utf8ByteSize ≤ maxNameSize := by
    intro l name e he
    rw [entryAt_of_ne_nil d (by simp)] at he
    exact h _ (SortedMap.find?_eq_some_iff.mp he) name (by simp)
  exact ⟨htree, fun l name e he => (hall l name e he).1, fun l name e he => (hall l name e he).2⟩

theorem Proper.alike {d d' : Disk} (h : d.Proper) (halike : Alike d d') : d'.Proper := by
  have hthere {l : Location} {e : Entry} (he : d'.entryAt l = some e) :
      ∃ e₀, d.entryAt l = some e₀ := by
    obtain ⟨e₀, he₀, -⟩ := Option.map_eq_some_iff.mp ((Retains.of_alike halike.symm).entry l e he)
    exact ⟨e₀, he₀⟩
  refine ⟨h.isTree.alike halike, fun l name e he => ?_, fun l name e he => ?_⟩
  · obtain ⟨e₀, he₀⟩ := hthere he
    exact h.isName l name e₀ he₀
  · obtain ⟨e₀, he₀⟩ := hthere he
    exact h.size l name e₀ he₀

/-- From a location names lead to something, through directories alone. -/
structure LiesBelow (d : Disk) (l : Location) (names : List String) (e : Entry) : Prop where
  ne_nil : names ≠ []
  directory : ∀ front rest, rest ≠ [] → names = front ++ rest →
    d.entryAt (l ++ front) = some .directory
  entryAt : d.entryAt (l ++ names) = some e

/-- In a tree everything below a location is reached through directories. -/
theorem IsTree.liesBelow_iff {d : Disk} (h : d.IsTree) {l : Location} {names : List String}
    {e : Entry} : d.LiesBelow l names e ↔ (names, e) ∈ d.below l := by
  rw [mem_below_iff]
  constructor
  · exact fun hlies => ⟨hlies.ne_nil, hlies.entryAt⟩
  · rintro ⟨hne, he⟩
    refine ⟨hne, fun front rest hrest heq => ?_, he⟩
    rw [heq, ← List.append_assoc] at he
    exact h.directory_of_below hrest he

/-- The directory at a location and every directory below it can be listed, each under the path that
names lead to from a first path, and can be entered. -/
structure Open (d : Disk) (p : Path) (l : Location) : Prop where
  mayList : ∀ names, d.entryAt (l ++ names) = some .directory →
    d.mayList (names.foldl Path.child p) (l ++ names)
  search : ∀ names, d.entryAt (l ++ names) = some .directory → (d.accessAt (l ++ names)).search

/-- The path leads to a directory, and a walk is let through it and everything below. -/
structure Readable (d : Disk) (p : Path) (l : Location) : Prop extends d.Open p l where
  find : d.find p = .ok (l, .directory)

namespace LiesBelow

variable {d : Disk} {l : Location} {name : String} {rest : List String} {e : Entry}

theorem top (h : d.LiesBelow l (name :: rest) e) : d.entryAt l = some .directory := by
  have hdir := h.directory [] (name :: rest) (List.cons_ne_nil name rest) rfl
  rwa [List.append_nil] at hdir

/-- What lies below a directory lies below the next one on the way, or is what the name leads to. -/
theorem tail (h : d.LiesBelow l (name :: rest) e) (hrest : rest ≠ []) :
    d.LiesBelow (l ++ [name]) rest e where
  ne_nil := hrest
  directory front more hmore heq := by
    rw [List.append_assoc]
    exact h.directory (name :: front) more hmore (by rw [heq]; rfl)
  entryAt := by
    rw [List.append_assoc]
    exact h.entryAt

end LiesBelow

namespace Open

variable {d : Disk} {p : Path} {l : Location}

theorem child (h : d.Open p l) (name : String) : d.Open (p.child name) (l ++ [name]) where
  mayList names hdir := by
    rw [List.append_assoc] at hdir ⊢
    exact h.mayList (name :: names) hdir
  search names hdir := by
    rw [List.append_assoc] at hdir ⊢
    exact h.search (name :: names) hdir

/-- The first directory itself can be listed and entered. -/
theorem top (h : d.Open p l) (hdir : d.entryAt l = some .directory) :
    d.mayList p l ∧ (d.accessAt l).search := by
  have hlist := h.mayList [] (by rwa [List.append_nil])
  have hsearch := h.search [] (by rwa [List.append_nil])
  rw [List.append_nil] at hlist hsearch
  exact ⟨hlist, hsearch⟩

/-- What a walk is let through is seen from the directories below. -/
theorem of_below (htop : d.mayList p l ∧ (d.accessAt l).search)
    (h : ∀ q ∈ d.below l, q.2 = .directory →
      d.mayList (q.1.foldl Path.child p) (l ++ q.1) ∧ (d.accessAt (l ++ q.1)).search) :
    d.Open p l := by
  have hall (names : List String) (hdir : d.entryAt (l ++ names) = some .directory) :
      d.mayList (names.foldl Path.child p) (l ++ names) ∧ (d.accessAt (l ++ names)).search := by
    by_cases hnames : names = []
    · rw [hnames, List.append_nil]
      exact htop
    · exact h (names, .directory) (mem_below_iff.mpr ⟨hnames, hdir⟩) rfl
  exact ⟨fun names hdir => (hall names hdir).1, fun names hdir => (hall names hdir).2⟩

/-- A walk meets everything that lies below. -/
theorem meets (h : d.Open p l) {names : List String} {e : Entry} (hlies : d.LiesBelow l names e) :
    d.meets p l names := by
  induction names generalizing p l with
  | nil => exact absurd rfl hlies.ne_nil
  | cons name rest ih =>
    obtain ⟨hlist, hsearch⟩ := h.top hlies.top
    cases rest with
    | nil => exact hlist
    | cons next more =>
      have hmore := ih (h.child name) (hlies.tail (List.cons_ne_nil next more))
      rw [Disk.meets, hlist, hsearch, hmore]
      · rfl
      · exact List.cons_ne_nil next more

end Open

/-- The directory that the path leads to, if it leads to one, and every directory below it can be
entered. -/
def Enterable (d : Disk) (p : Path) : Prop :=
  ∀ l, d.find p = .ok (l, .directory) → ∀ names, d.entryAt (l ++ names) = some .directory →
    (d.accessAt (l ++ names)).search

theorem Enterable.alike {d d' : Disk} {p : Path} (h : d.Enterable p) (halike : Alike d d') :
    d'.Enterable p := by
  intro l hfind names hdir
  rw [halike.accessAt]
  exact h l (halike.symm.find_directory hfind) names ((Retains.of_alike halike.symm).directory hdir)

/-- Where every directory can be entered, a path with further names leads to what lies below, unless
that is a link. -/
theorem Leads.below {d : Disk} (hproper : d.Proper) {p : Path} {l : Location} {names : List String}
    {e : Entry} (h : d.Leads p l .directory)
    (hsearch : ∀ names, d.entryAt (l ++ names) = some .directory → (d.accessAt (l ++ names)).search)
    (hlies : d.LiesBelow l names e) (hnolink : ∀ target, e ≠ .link target) :
    d.Leads (names.foldl Path.child p) (l ++ names) e := by
  induction names generalizing p l with
  | nil => exact absurd rfl hlies.ne_nil
  | cons name rest ih =>
    have htop : (d.accessAt l).search := by
      have hhere := hsearch []
      rw [List.append_nil] at hhere
      exact hhere hlies.top
    have hchild : ∀ e', d.entryAt (l ++ [name]) = some e' → (∀ target, e' ≠ .link target) →
        d.Leads (p.child name) (l ++ [name]) e' := fun e' he' hnolink' =>
      h.child (hproper.isName l name e' he') ⟨hlies.top, htop, hproper.size l name e' he'⟩ he'
        hnolink'
    by_cases hrest : rest = []
    · subst hrest
      exact hchild e hlies.entryAt hnolink
    · have hdir := hlies.directory [name] rest hrest rfl
      have hbelow := ih (hchild .directory hdir (by simp)) (fun more hmore => ?_)
        (hlies.tail hrest)
      · rw [List.append_assoc] at hbelow
        exact hbelow
      · rw [List.append_assoc] at hmore ⊢
        exact hsearch (name :: more) hmore

/-- A walk through a readable directory meets just what lies below. -/
theorem Readable.mem_tree_iff {d : Disk} {p : Path} {l : Location} (h : d.Readable p l)
    (htree : d.IsTree) :
    ∃ entries, d.tree p = .ok entries
      ∧ ∀ names e, (names, e) ∈ entries ↔ d.LiesBelow l names e := by
  refine ⟨(d.below l).filter fun e => d.meets p l e.1, by rw [tree, h.find], fun names e => ?_⟩
  rw [List.mem_filter, ← htree.liesBelow_iff]
  exact ⟨fun hmem => hmem.1, fun hlies => ⟨hlies, h.meets hlies⟩⟩

end RpmProvision.Disk
