/-
The index of the RPMs at hand.

The index holds the packages whose RPMs lie anywhere below two directories. A package may have several
RPMs there; then one below the first directory counts before those below the second.

* **`RpmBelow`** — where the RPM of a package lies below a directory;
* **`mem_rpmsBelow_iff_rpmBelow`** — what is found below one directory;
* **`indexed_below`** — what the index of two directories holds;
* **`leads_of_find?_index`** — what it holds leads to a file if all directories can be entered.
-/
import RpmProvision.Cloner
import RpmProvision.Proofs.Disk.Tree
import RpmProvision.Proofs.Tdnf.LocalRpms

namespace RpmProvision.Tdnf

open Disk

/-- Below the directory at a location the names lead to a regular file, not through links, and the
last name is that of the package with the extension `rpm`. -/
def RpmBelow (d : Disk) (l : Location) (package : String) (names : List String) : Prop :=
  names.getLast? = some (package ++ ".rpm") ∧ ∃ content, d.LiesBelow l names (.file content)

/-- The path goes through a directory to an RPM of the package below it, and leads to this file. -/
def RpmAt (d : Disk) (dir : Path) (l : Location) (package : String) (path : Path) : Prop :=
  ∃ names content, RpmBelow d l package names ∧ path = names.foldl Path.child dir
    ∧ d.Leads path (l ++ names) (.file content)

/-- The last name on the way is the file name of the path. -/
theorem fileName?_foldl_child {d : Disk} (hproper : d.Proper) {dir : Path} {l : Location}
    {names : List String} {e : Entry} (hlies : d.LiesBelow l names e) :
    (names.foldl Path.child dir).fileName? = names.getLast? := by
  obtain ⟨front, last, rfl⟩ := (List.eq_nil_or_concat' names).resolve_left hlies.ne_nil
  have hlast : d.entryAt ((l ++ front) ++ [last]) = some e := by
    rw [List.append_assoc]
    exact hlies.entryAt
  rw [List.foldl_append, List.foldl_cons, List.foldl_nil, List.getLast?_concat]
  exact Path.fileName?_child _ (hproper.isName _ last e hlast)

section Readable

variable {d : Disk} {dir : Path} {l : Location} (hproper : d.Proper) (hdir : d.Readable dir l)

include hproper hdir

/-- Below a directory that a walk is let through, the RPMs of all packages are found. -/
theorem mem_rpmsBelow_iff_rpmBelow {package : String} {path : Path} :
    (package, path) ∈ rpmsBelow d dir ↔
      package ≠ "" ∧ ∃ names, RpmBelow d l package names ∧ path = names.foldl Path.child dir := by
  obtain ⟨entries, htree, hentries⟩ := hdir.mem_tree_iff hproper.isTree
  rw [mem_rpmsBelow_iff]
  constructor
  · rintro ⟨_, names, content, htree', hmem, rfl, hpackage⟩
    cases htree.symm.trans htree'
    have hlies := (hentries names _).mp hmem
    obtain ⟨hne, hname⟩ := packageOf?_eq_some_iff.mp hpackage
    rw [fileName?_foldl_child hproper hlies] at hname
    exact ⟨hne, names, ⟨hname, content, hlies⟩, rfl⟩
  · rintro ⟨hne, names, ⟨hlast, content, hlies⟩, rfl⟩
    refine ⟨entries, names, content, htree, (hentries names _).mpr hlies, rfl, ?_⟩
    rw [packageOf?_eq_some_iff, fileName?_foldl_child hproper hlies]
    exact ⟨hne, hlast⟩

/-- What is found first is there, and something is found if there is anything. -/
theorem lookup_rpmsBelow (package : String) :
    (∃ path, SortedMap.lookup package (rpmsBelow d dir) = some path ∧ package ≠ ""
        ∧ RpmAt d dir l package path)
      ∨ SortedMap.lookup package (rpmsBelow d dir) = none
        ∧ ¬ (package ≠ "" ∧ ∃ names, RpmBelow d l package names) := by
  cases hfirst : SortedMap.lookup package (rpmsBelow d dir) with
  | some path =>
    left
    obtain ⟨hne, names, hbelow, rfl⟩ :=
      (mem_rpmsBelow_iff_rpmBelow hproper hdir).mp (SortedMap.mem_of_lookup hfirst)
    obtain ⟨content, hlies⟩ := hbelow.2
    have hleads := (leads_of_find hdir.find).below hproper hdir.search hlies (by simp)
    exact ⟨_, rfl, hne, names, content, hbelow, rfl, hleads⟩
  | none =>
    refine .inr ⟨rfl, ?_⟩
    rintro ⟨hne, names, hbelow⟩
    obtain ⟨path, hpath⟩ := SortedMap.exists_lookup_of_mem
      ((mem_rpmsBelow_iff_rpmBelow hproper hdir).mpr ⟨hne, names, hbelow, rfl⟩)
    rw [hfirst] at hpath
    cases hpath

end Readable

/-- The path of an RPM has the file name that the RPM of its package has everywhere. -/
theorem RpmAt.fileName? {d : Disk} (hproper : d.Proper) {dir path : Path} {l : Location}
    {package : String} (h : RpmAt d dir l package path) :
    path.fileName? = some (package ++ ".rpm")
      ∧ ∀ other, (rpmPath package other).fileName? = path.fileName? := by
  obtain ⟨names, -, ⟨hlast, content, hlies⟩, rfl, -⟩ := h
  have hname : (names.foldl Path.child dir).fileName? = names.getLast? :=
    fileName?_foldl_child hproper hlies
  rw [hlast] at hname
  refine ⟨hname, fun other => ?_⟩
  rw [hname, rpmPath]
  exact Path.fileName?_child other (Path.isName_of_fileName? hname)

/-- Whatever there is below two directories that a walk is let through: the index of both holds exactly
the packages, with any name but the empty one, that have an RPM below one of them. What it holds for a
package is the path of such an RPM, and that is below the first directory if there is one. The path
leads to the RPM, and ends in the name that the RPM of the package has in every directory. -/
theorem indexed_below {d : Disk} {rpmDir toolchainDir : Path} {rpms toolchain : Location}
    (hproper : d.Proper) (hrpms : d.Readable rpmDir rpms)
    (htoolchain : d.Readable toolchainDir toolchain) :
    (∀ package, package ∈ (index d [rpmDir, toolchainDir]).keys ↔ package ≠ ""
        ∧ ∃ names, RpmBelow d rpms package names ∨ RpmBelow d toolchain package names)
      ∧ ∀ package path, (index d [rpmDir, toolchainDir]).find? package = some path →
        (RpmAt d rpmDir rpms package path
          ∨ (∀ names, ¬ RpmBelow d rpms package names)
            ∧ RpmAt d toolchainDir toolchain package path)
        ∧ path.fileName? = some (package ++ ".rpm")
        ∧ ∀ dir, (rpmPath package dir).fileName? = path.fileName? := by
  have hfind (package : String) : (index d [rpmDir, toolchainDir]).find? package
      = (SortedMap.lookup package (rpmsBelow d rpmDir)).or
        (SortedMap.lookup package (rpmsBelow d toolchainDir)) := by
    rw [index, find?_firstOfEach, List.flatMap_cons, List.flatMap_cons, List.flatMap_nil,
      List.append_nil, SortedMap.lookup_append]
  constructor
  · intro package
    rw [SortedMap.mem_keys_iff, hfind]
    rcases lookup_rpmsBelow hproper hrpms package with
      ⟨path, hpath, hne, names, -, hbelow, -⟩ | ⟨hnone, hnot⟩
    · rw [hpath]
      exact ⟨fun _ => ⟨hne, names, .inl hbelow⟩, fun _ => ⟨path, rfl⟩⟩
    · rw [hnone, Option.none_or]
      rcases lookup_rpmsBelow hproper htoolchain package with
        ⟨path, hpath, hne, names, -, hbelow, -⟩ | ⟨hnone', hnot'⟩
      · rw [hpath]
        exact ⟨fun _ => ⟨hne, names, .inr hbelow⟩, fun _ => ⟨path, rfl⟩⟩
      · rw [hnone']
        constructor
        · rintro ⟨path, hpath⟩
          cases hpath
        · rintro ⟨hne, names, hbelow | hbelow⟩
          · exact absurd ⟨hne, names, hbelow⟩ hnot
          · exact absurd ⟨hne, names, hbelow⟩ hnot'
  · intro package path h
    rw [hfind] at h
    rcases lookup_rpmsBelow hproper hrpms package with ⟨path', hpath, -, hat⟩ | ⟨hnone, hnot⟩
    · rw [hpath, Option.some_or] at h
      cases h
      exact ⟨.inl hat, hat.fileName? hproper⟩
    · rw [hnone, Option.none_or] at h
      rcases lookup_rpmsBelow hproper htoolchain package with ⟨path', hpath, hne, hat⟩ | ⟨hnone', -⟩
      · rw [hpath] at h
        cases h
        exact ⟨.inr ⟨fun names hbelow => hnot ⟨hne, names, hbelow⟩, hat⟩, hat.fileName? hproper⟩
      · rw [hnone'] at h
        cases h

/-- What the index holds for a package is the path of a file, where all directories below the indexed
ones can be entered. -/
theorem leads_of_find?_index {d : Disk} (hproper : d.Proper) {dirs : List Path}
    (hdirs : ∀ dir ∈ dirs, d.Enterable dir) {package : String} {source : Path}
    (h : (index d dirs).find? package = some source) :
    ∃ l content, d.Leads source l (.file content) := by
  obtain ⟨dir, hdir, hmem⟩ := exists_mem_of_find?_index h
  obtain ⟨entries, names, content, htree, hentry, rfl, -⟩ := mem_rpmsBelow_iff.mp hmem
  rw [tree] at htree
  rcases hfind : d.find dir with fault | ⟨l, _ | _ | _⟩
  · rw [hfind] at htree
    cases htree
  · rw [hfind] at htree
    cases htree
    have hlies := hproper.isTree.liesBelow_iff.mpr (List.mem_filter.mp hentry).1
    exact ⟨_, content, (leads_of_find hfind).below hproper (hdirs dir hdir l hfind) hlies (by simp)⟩
  · rw [hfind] at htree
    cases htree
    cases hentry
  · rw [hfind] at htree
    cases htree
    cases hentry

/-- Zlib lies deep below the one directory and in the other; a link, a directory and a file without a
package are called like RPMs. -/
def mixedDisk : Disk :=
  ⟨.ofList [(["rpms"], .directory), (["rpms", "deep"], .directory),
    (["rpms", "deep", "zlib.rpm"], .file [1]), (["rpms", "curl.rpm"], .link ⟨"/tc/lib.so.rpm"⟩),
    (["tc"], .directory), (["tc", ".rpm"], .file []), (["tc", "app.rpm"], .directory),
    (["tc", "lib.so.rpm"], .file [2]), (["tc", "zlib.rpm"], .file [3])], [], ∅⟩

theorem indexed_mixedDisk :
    mixedDisk.Proper ∧ mixedDisk.Readable ⟨"rpms"⟩ ["rpms"] ∧ mixedDisk.Readable ⟨"tc/"⟩ ["tc"]
      ∧ (index mixedDisk [⟨"rpms"⟩, ⟨"tc/"⟩]).entries
        = [("lib.so", ⟨"tc/lib.so.rpm"⟩), ("zlib", ⟨"rpms/deep/zlib.rpm"⟩)]
      ∧ (∃ names, RpmBelow mixedDisk ["rpms"] "zlib" names ∨ RpmBelow mixedDisk ["tc"] "zlib" names)
      ∧ (∀ names, ¬ RpmBelow mixedDisk ["rpms"] "lib.so" names)
      ∧ RpmAt mixedDisk ⟨"tc/"⟩ ["tc"] "lib.so" ⟨"tc/lib.so.rpm"⟩ := by
  have hproper : mixedDisk.Proper := .of_entries (by decide +kernel) (by decide +kernel)
  have hrpms : mixedDisk.Readable ⟨"rpms"⟩ ["rpms"] :=
    ⟨.of_below (by decide +kernel) (by decide +kernel), by decide +kernel⟩
  have htc : mixedDisk.Readable ⟨"tc/"⟩ ["tc"] :=
    ⟨.of_below (by decide +kernel) (by decide +kernel), by decide +kernel⟩
  have hentries : (index mixedDisk [⟨"rpms"⟩, ⟨"tc/"⟩]).entries
      = [("lib.so", ⟨"tc/lib.so.rpm"⟩), ("zlib", ⟨"rpms/deep/zlib.rpm"⟩)] := by decide +kernel
  have hnone : ∀ names, ¬ RpmBelow mixedDisk ["rpms"] "lib.so" names := by
    rintro names ⟨hlast, content, hlies⟩
    have hall : ∀ q ∈ mixedDisk.below ["rpms"], q.1.getLast? ≠ some "lib.so.rpm" := by decide +kernel
    exact hall (names, .file content) (hproper.isTree.liesBelow_iff.mp hlies) hlast
  obtain ⟨hkeys, hvalues⟩ := indexed_below hproper hrpms htc
  have hzlib := (hkeys "zlib").mp (by rw [SortedMap.keys, hentries]; decide)
  have hlib := hvalues "lib.so" ⟨"tc/lib.so.rpm"⟩
    (by rw [SortedMap.find?_eq_some_iff, hentries]; decide)
  refine ⟨hproper, hrpms, htc, hentries, hzlib.2, hnone, ?_⟩
  rcases hlib.1 with ⟨names, -, hbelow, -⟩ | hbelow
  · exact absurd hbelow (hnone names)
  · exact hbelow.2

end RpmProvision.Tdnf
