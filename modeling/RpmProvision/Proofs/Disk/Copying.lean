/-
What a copy holds.

A copy opens its source, empties the target, and only then takes over what the source holds. So the
target holds what the source held, unless both are one file: then nothing is left to take over.

* **`Holds`** — a path leads to a file with a content;
* **`copy_eq_ok`** — what a copy does that succeeds;
* **`copied_of_eq_ok`**, **`copy_eq_error`** — what a copy touches;
* **`IsTree.copied`** — what the target holds then, and what else is as it was;
* **`IsTree.copied_new`** — a copy under a new name never loses anything.
-/
import RpmProvision.Proofs.Disk.Growth

namespace RpmProvision.Disk

open Step

/-- The path leads to a file with the content. -/
def Holds (d : Disk) (p : Path) (c : Bytes) : Prop := ∃ l, d.Leads p l (.file c)

theorem Holds.unique {d : Disk} {p : Path} {c c' : Bytes} (h : d.Holds p c) (h' : d.Holds p c') :
    c = c' := by
  obtain ⟨_, hl⟩ := h
  obtain ⟨_, hl'⟩ := h'
  exact Entry.file.inj (hl.unique hl').2

/-- What a copy does that succeeds. -/
theorem copy_eq_ok {source target : Path} {d d' : Disk}
    (h : Disk.copy source target d = (.ok (), d')) :
    ∃ origin c l, d.find source = .ok (origin, .file c) ∧ d.writable target = .ok l
      ∧ d' = copyContent origin l (d.put l (.file [])) := by
  rw [Disk.copy, bind_apply, asks_apply, andThen_ok] at h
  rcases hfile : d.openFile source with fault | ⟨origin, _ | content⟩
  · rw [hfile] at h
    cases h
  · rw [hfile] at h
    cases h
  · rw [hfile] at h
    obtain ⟨l, d₁, hcreate, h⟩ := bind_eq_ok.mp h
    cases h
    rw [create] at hcreate
    cases hw : d.writable target with
    | error fault =>
      rw [hw] at hcreate
      cases hcreate
    | ok l' =>
      rw [hw] at hcreate
      cases hcreate
      refine ⟨origin, content, l, ?_, rfl, rfl⟩
      rw [openFile] at hfile
      rcases hfind : d.find source with fault | ⟨l', _ | c | _⟩
      · simp [hfind] at hfile
      · rw [hfind] at hfile
        dsimp only at hfile
        split_ifs at hfile
        cases hfile
      · rw [hfind] at hfile
        dsimp only at hfile
        split_ifs at hfile
        cases hfile
        rfl
      · rw [hfind] at hfile
        dsimp only at hfile
        split_ifs at hfile
        cases hfile

/-- The content of a file is taken over into another one. -/
theorem copyContent_eq {d : Disk} {source : Location} {c : Bytes}
    (h : d.entryAt source = some (.file c)) (target : Location) :
    copyContent source target d = (d.put target (.file c)).permit target (d.accessAt source) := by
  rw [copyContent, h]

/-- A copy that fails changes nothing. -/
theorem copy_eq_error {source target : Path} {d d' : Disk} {fault : IoFault}
    (h : Disk.copy source target d = (.error fault, d')) : d' = d := by
  rw [Disk.copy, bind_apply, asks_apply, andThen_ok] at h
  rcases hfile : d.openFile source with fault | ⟨origin, _ | content⟩
  · rw [hfile] at h
    cases h
    rfl
  · rw [hfile] at h
    cases h
    rfl
  · rw [hfile] at h
    obtain hcreate | ⟨_, _, -, hmodify⟩ := bind_eq_error.mp h
    · rw [create] at hcreate
      cases hw : d.writable target with
      | error fault =>
        rw [hw] at hcreate
        cases hcreate
        rfl
      | ok l =>
        rw [hw] at hcreate
        cases hcreate
    · cases hmodify

/-- A copy that succeeds leaves in the file at the end of its target what the source held, unless it
is the same file. Nothing else is touched. -/
theorem copied_of_eq_ok {source target : Path} {d d' : Disk}
    (h : Disk.copy source target d = (.ok (), d')) :
    ∃ origin c l, d.Leads source origin (.file c) ∧ d.writable target = .ok l
      ∧ d'.entryAt l = some (.file (if origin = l then [] else c))
      ∧ d'.workingDir = d.workingDir ∧ ∀ l', l' ≠ l → Untouched l' d d' := by
  obtain ⟨origin, c, l, hfind, hw, hd'⟩ := copy_eq_ok h
  have hleads := leads_of_find hfind
  have hne := ne_nil_of_ne_directory (entryAt_of_writable hw)
  have hsource : (d.put l (.file [])).entryAt origin = some (.file (if origin = l then [] else c)) := by
    by_cases hsame : origin = l
    · rw [if_pos hsame, hsame, entryAt_put_self d hne]
    · rw [if_neg hsame, entryAt_put_of_ne d hsame, hleads.entryAt]
  rw [copyContent_eq hsource] at hd'
  subst hd'
  refine ⟨origin, c, l, hleads, hw, entryAt_put_self _ hne _, rfl, fun l' hl' => ?_⟩
  have hput := (untouched_put hl' d (.file [])).trans
    (untouched_put hl' _ (.file (if origin = l then [] else c)))
  exact ⟨hput.1, (accessAt_permit_of_ne _ hl' _).trans hput.2⟩

/-- A copy that succeeds: the target holds what the source held, unless it is the same file. Nothing
else is touched, and nothing is taken away. -/
theorem IsTree.copied {d d' : Disk} (htree : d.IsTree) {source target : Path}
    (h : Disk.copy source target d = (.ok (), d')) :
    d'.IsTree ∧ Retains d d' ∧ ∃ origin c l, d.Leads source origin (.file c)
      ∧ d.writable target = .ok l ∧ d'.Leads target l (.file (if origin = l then [] else c))
      ∧ ∀ l', l' ≠ l → Untouched l' d d' := by
  have hkept := htree.copy source target
  rw [h] at hkept
  obtain ⟨htree', hretains, -⟩ := hkept
  obtain ⟨origin, c, l, hleads, hw, hfile, -, hother⟩ := copied_of_eq_ok h
  exact ⟨htree', hretains, origin, c, l, hleads, hw,
    leads_of_find (hretains.find_of_writable hw hfile), hother⟩

/-- A copy under a name that is not used in a directory: the new file holds what the source holds,
and nothing that was there is touched. -/
theorem IsTree.copied_new {d d' : Disk} (htree : d.IsTree) {source dir : Path} {l : Location}
    {name : String} (hname : Path.IsName name) (hleads : d.Leads dir l .directory)
    (hnone : d.entryAt (l ++ [name]) = none)
    (h : Disk.copy source (dir.child name) d = (.ok (), d')) :
    d'.IsTree ∧ (∀ log, Grows log d d') ∧ (∀ l', l' ≠ l ++ [name] → Untouched l' d d')
      ∧ ∃ c, d'.Holds source c ∧ d'.entryAt (l ++ [name]) = some (.file c) := by
  obtain ⟨htree', hretains, origin, c, place, hsource, hw, hcopy, hother⟩ := htree.copied h
  obtain rfl : place = l ++ [name] := by
    obtain ⟨e, hr, -, -⟩ := writable_eq_ok_iff.mp hw
    exact (location_of_resolve_child hleads hname (by simp [hnone]) hr).2.1
  -- the source stands somewhere, so it is not the new file
  have hne : origin ≠ l ++ [name] := by
    rintro rfl
    rw [hsource.entryAt] at hnone
    cases hnone
  have hgrows (log : Option Location) : Grows log d d' :=
    grows_of_new d' hnone hretains.workingDir hother log
  rw [if_neg hne] at hcopy
  exact ⟨htree', hgrows, hother, c, ⟨origin, (hgrows none).leads_file (by simp) hsource⟩,
    hcopy.entryAt⟩

end RpmProvision.Disk
