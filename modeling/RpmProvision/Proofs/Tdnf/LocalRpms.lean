/-
RPMs in a directory.

* **`HasRpm`** — the RPM of a package is directly in a directory;
* **`mem_scan_iff`** — a scan of a directory that can be read finds just these packages;
* **`hasRpm_iff`** — in a directory of proper names they are the packages with a file `<name>.rpm`;
* **`mem_rpmsBelow_iff`**, **`find?_firstOfEach`** — what an index is made of;
* **`no_slash_of_find?_index`** — the packages of an index are names without a slash.
-/
import RpmProvision.Proofs.Disk
import RpmProvision.Proofs.Path
import RpmProvision.Tdnf.LocalRpms

namespace RpmProvision.Tdnf

/-- Directly in the directory there is a regular file with the extension `rpm` and the name of the
package before it. -/
def HasRpm (dir : Path) (d : Disk) (package : String) : Prop :=
  ∃ l name content, d.find dir = .ok (l, .directory) ∧ d.entryAt (l ++ [name]) = some (.file content)
    ∧ (dir.child name).extension? = some "rpm" ∧ (dir.child name).stem? = some package

theorem packageOf?_eq_some {path : Path} {package : String} :
    packageOf? path = some package ↔ path.extension? = some "rpm" ∧ path.stem? = some package := by
  rw [packageOf?]
  by_cases h : path.extension? = some "rpm"
  · rw [if_pos h]
    exact ⟨fun hs => ⟨h, hs⟩, fun hs => hs.2⟩
  · rw [if_neg h]
    exact ⟨fun hs => (nomatch hs), fun hs => absurd hs.1 h⟩

/-- A file holds a package if its name is that of the package with the extension `rpm`. -/
theorem packageOf?_eq_some_iff {path : Path} {package : String} :
    packageOf? path = some package ↔ package ≠ "" ∧ path.fileName? = some (package ++ ".rpm") := by
  rw [packageOf?_eq_some, Path.extension?, Path.stem?]
  cases path.fileName? with
  | none => simp
  | some name =>
    rw [Option.bind_some, Option.map_some, Option.some.injEq, Option.some.injEq,
      ← Path.cutAtPoint_eq_rpm, Prod.ext_iff]
    exact and_comm

/-- Contents of files do not matter. -/
theorem HasRpm.alike {dir : Path} {d d' : Disk} {package : String} (h : HasRpm dir d package)
    (halike : Disk.Alike d d') : HasRpm dir d' package := by
  obtain ⟨l, name, content, hfind, hentry, hname⟩ := h
  obtain ⟨content', hentry'⟩ := halike.file hentry
  exact ⟨l, name, content', halike.find_directory hfind, hentry', hname⟩

theorem rpmAt?_eq_some {dir path : Path} {name package : String} {e : Entry} :
    rpmAt? dir ([name], e) = some (package, path) ↔
      path = dir.child name ∧ packageOf? (dir.child name) = some package
        ∧ ∃ content, e = .file content := by
  match e with
  | .directory => simp [rpmAt?]
  | .link _ => simp [rpmAt?]
  | .file content =>
    simp only [rpmAt?, List.foldl_cons, List.foldl_nil, Option.map_eq_some_iff, Prod.mk.injEq]
    constructor
    · rintro ⟨_, hp, rfl, rfl⟩
      exact ⟨rfl, hp, content, rfl⟩
    · rintro ⟨rfl, hp, -⟩
      exact ⟨package, hp, rfl, rfl⟩

/-- A scan that succeeds finds the packages whose RPMs are in the directory. -/
theorem mem_scan_iff {dir : Path} {d : Disk} {names : SortedSet String}
    (h : scan dir d = .ok names) {package : String} :
    package ∈ names.keys ↔ HasRpm dir d package := by
  rw [scan] at h
  cases hlist : d.list dir with
  | error fault =>
    rw [hlist] at h
    cases h
  | ok entries =>
    rw [hlist] at h
    cases h
    rw [SortedMap.mem_keys_ofList, List.map_map, List.mem_map]
    rw [Disk.list] at hlist
    rcases hfind : d.find dir with fault | ⟨l, e⟩
    · rw [hfind] at hlist
      cases hlist
    · rw [hfind] at hlist
      cases e with
      | directory =>
        dsimp only at hlist
        split_ifs at hlist
        cases hlist
        constructor
        · rintro ⟨⟨p, path⟩, hmem, rfl⟩
          obtain ⟨⟨name, e⟩, hchild, hrpm⟩ := List.mem_filterMap.mp hmem
          obtain ⟨-, hp, content, rfl⟩ := rpmAt?_eq_some.mp hrpm
          exact ⟨l, name, content, hfind, Disk.mem_children_iff.mp hchild, packageOf?_eq_some.mp hp⟩
        · rintro ⟨l', name, content, hfind', hentry, hname⟩
          cases hfind.symm.trans hfind'
          refine ⟨(package, dir.child name), ?_, rfl⟩
          exact List.mem_filterMap.mpr ⟨(name, .file content), Disk.mem_children_iff.mpr hentry,
            rpmAt?_eq_some.mpr ⟨rfl, packageOf?_eq_some.mpr hname, content, rfl⟩⟩
      | file content =>
        cases hlist
        constructor
        · rintro ⟨_, hmem, -⟩
          cases hmem
        · rintro ⟨_, _, _, hfind', -⟩
          cases hfind.symm.trans hfind'
      | link target =>
        cases hlist
        constructor
        · rintro ⟨_, hmem, -⟩
          cases hmem
        · rintro ⟨_, _, _, hfind', -⟩
          cases hfind.symm.trans hfind'

/-- Where everything in the directory has a proper name, the RPM of a package is the file
`<package>.rpm`. -/
theorem hasRpm_iff {dir : Path} {d : Disk} {package : String}
    (hnames : ∀ l name, d.find dir = .ok (l, .directory) → d.entryAt (l ++ [name]) ≠ none →
      Path.IsName name) :
    HasRpm dir d package ↔ package ≠ "" ∧ ∃ l content, d.find dir = .ok (l, .directory)
      ∧ d.entryAt (l ++ [package ++ ".rpm"]) = some (.file content) := by
  -- the path of a proper name in a directory ends in that name
  have hrpm {name : String} (hname : Path.IsName name) :
      ((dir.child name).extension? = some "rpm" ∧ (dir.child name).stem? = some package)
        ↔ package ≠ "" ∧ name = package ++ ".rpm" := by
    rw [← packageOf?_eq_some, packageOf?_eq_some_iff, Path.fileName?_child dir hname,
      Option.some.injEq]
  constructor
  · rintro ⟨l, name, content, hfind, hentry, hname⟩
    have hproper : Path.IsName name := by
      refine hnames l name hfind ?_
      rw [hentry]
      exact Option.some_ne_none _
    obtain ⟨hne, rfl⟩ := (hrpm hproper).mp hname
    exact ⟨hne, l, content, hfind, hentry⟩
  · rintro ⟨hne, l, content, hfind, hentry⟩
    have hproper : Path.IsName (package ++ ".rpm") := by
      refine hnames l _ hfind ?_
      rw [hentry]
      exact Option.some_ne_none _
    exact ⟨l, _, content, hfind, hentry, (hrpm hproper).mpr ⟨hne, rfl⟩⟩

/-- Of several RPMs of a package the first one counts. -/
theorem find?_firstOfEach (rpms : List (String × Path)) (package : String) :
    (firstOfEach rpms).find? package = SortedMap.lookup package rpms := by
  have hall (m : SortedMap String Path) :
      (rpms.foldl (fun m p => if m.contains p.1 then m else m.insert p.1 p.2) m).find? package
        = (m.find? package).or (SortedMap.lookup package rpms) := by
    induction rpms generalizing m with
    | nil => simp [SortedMap.lookup]
    | cons rpm rest ih =>
      rw [List.foldl_cons, ih, SortedMap.lookup]
      by_cases hsame : compare package rpm.1 = .eq
      · rw [if_pos hsame, Std.LawfulEqCmp.eq_of_compare hsame]
        cases hfind : m.find? rpm.1 with
        | some path => simp [SortedMap.contains, hfind]
        | none => simp [SortedMap.contains, hfind, SortedMap.find?_insert_self]
      · have hne : package ≠ rpm.1 := fun heq => hsame (heq ▸ Std.ReflCmp.compare_self)
        rw [if_neg hsame]
        cases m.contains rpm.1 with
        | true => rfl
        | false => rw [if_neg (by decide), SortedMap.find?_insert_of_ne _ _ hne]
  rw [firstOfEach, hall]
  rfl

/-- The RPMs below a directory are the files that a walk meets and whose names are those of packages. -/
theorem mem_rpmsBelow_iff {d : Disk} {dir path : Path} {package : String} :
    (package, path) ∈ rpmsBelow d dir ↔ ∃ entries names content, d.tree dir = .ok entries
      ∧ (names, .file content) ∈ entries ∧ path = names.foldl Path.child dir
      ∧ packageOf? path = some package := by
  rw [rpmsBelow]
  cases d.tree dir with
  | error fault => simp
  | ok entries =>
    rw [List.mem_filterMap]
    constructor
    · rintro ⟨⟨names, e⟩, hmem, hrpm⟩
      match e with
      | .directory => cases hrpm
      | .link _ => cases hrpm
      | .file content =>
        rw [rpmAt?, Option.map_eq_some_iff] at hrpm
        obtain ⟨_, hpackage, heq⟩ := hrpm
        cases heq
        exact ⟨entries, names, content, rfl, hmem, rfl, hpackage⟩
    · rintro ⟨_, names, content, hentries, hmem, rfl, hpackage⟩
      cases hentries
      refine ⟨(names, .file content), hmem, ?_⟩
      rw [rpmAt?, hpackage]
      rfl

/-- The RPM of a package in an index is one of the RPMs below the directories. -/
theorem exists_mem_of_find?_index {d : Disk} {dirs : List Path} {package : String} {source : Path}
    (h : (index d dirs).find? package = some source) :
    ∃ dir ∈ dirs, (package, source) ∈ rpmsBelow d dir := by
  rw [index, find?_firstOfEach] at h
  exact List.mem_flatMap.mp (SortedMap.mem_of_lookup h)

/-- The packages of an index are names without a slash. -/
theorem no_slash_of_find?_index {d : Disk} {dirs : List Path} {package : String} {source : Path}
    (h : (index d dirs).find? package = some source) : '/' ∉ package.toList := by
  obtain ⟨dir, -, hmem⟩ := exists_mem_of_find?_index h
  obtain ⟨_, _, _, -, -, -, hpackage⟩ := mem_rpmsBelow_iff.mp hmem
  intro hslash
  refine (Path.isName_of_fileName? (packageOf?_eq_some_iff.mp hpackage).2).no_slash ?_
  rw [String.toList_append]
  exact List.mem_append_left _ hslash

end RpmProvision.Tdnf
