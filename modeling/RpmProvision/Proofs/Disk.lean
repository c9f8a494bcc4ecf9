/-
Disks that differ only in what their files hold.

Such disks have the same files, directories and links, and every path leads to the same place on
them. Writing a log changes a disk in this way only.

* **`Alike`** — the two disks agree but for the contents of files;
* **`Alike.find_directory`** — a path leads to the same directory on both;
* **`World.alike_recordAll`** — a log that is written changes contents only;
* **`mem_below_iff`**, **`mem_children_iff`**, **`nodup_children`** — what stands in a directory;
* **`find?_of_replace`** — what a file holds that was replaced.
-/
import Mathlib.Tactic.SplitIfs
import RpmProvision.Proofs.SortedMap
import RpmProvision.Proofs.World

namespace RpmProvision

/-- An entry without what it holds. -/
def Entry.shape : Entry → Entry
  | .file _ => .file []
  | e => e

/-- Entries of one shape are the same, or both are files. -/
theorem Entry.shape_cases {e e' : Option Entry} (h : e'.map Entry.shape = e.map Entry.shape) :
    e' = e ∨ ∃ c c', e = some (.file c) ∧ e' = some (.file c') := by
  match e, e' with
  | none, none => exact .inl rfl
  | none, some _ => simp at h
  | some _, none => simp at h
  | some (.file c), some (.file c') => exact .inr ⟨c, c', rfl, rfl⟩
  | some .directory, some .directory => exact .inl rfl
  | some (.link t), some (.link t') =>
    left
    simpa [Entry.shape] using h
  | some .directory, some (.file _) => simp [Entry.shape] at h
  | some .directory, some (.link _) => simp [Entry.shape] at h
  | some (.file _), some .directory => simp [Entry.shape] at h
  | some (.file _), some (.link _) => simp [Entry.shape] at h
  | some (.link _), some .directory => simp [Entry.shape] at h
  | some (.link _), some (.file _) => simp [Entry.shape] at h

namespace Disk

theorem isDirectory_iff {d : Disk} {p : Path} :
    d.isDirectory p ↔ ∃ l, d.find p = .ok (l, .directory) := by
  rw [isDirectory]
  rcases d.find p with fault | ⟨l, _ | c | t⟩ <;> simp

/-- The second disk differs from the first in the contents of files only. -/
structure Alike (d d' : Disk) : Prop where
  workingDir : d'.workingDir = d.workingDir
  access : d'.access = d.access
  entry : ∀ l, (d'.entryAt l).map Entry.shape = (d.entryAt l).map Entry.shape

/-- Where names lead, without what stands there holds. -/
def Stretch.shape : Stretch → Stretch
  | .arrived l e => .arrived l (e.map Entry.shape)
  | s => s

namespace Alike

variable {d d' d'' : Disk}

theorem refl (d : Disk) : Alike d d := ⟨rfl, rfl, fun _ => rfl⟩

theorem symm (h : Alike d d') : Alike d' d :=
  ⟨h.workingDir.symm, h.access.symm, fun l => (h.entry l).symm⟩

theorem trans (h : Alike d d') (h' : Alike d' d'') : Alike d d'' :=
  ⟨h'.workingDir.trans h.workingDir, h'.access.trans h.access,
    fun l => (h'.entry l).trans (h.entry l)⟩

theorem accessAt (h : Alike d d') (l : Location) : d'.accessAt l = d.accessAt l := by
  rw [Disk.accessAt, Disk.accessAt, h.access]

/-- Where one disk has a file, so has the other. -/
theorem file (h : Alike d d') {l : Location} {c : Bytes} (hd : d.entryAt l = some (.file c)) :
    ∃ c', d'.entryAt l = some (.file c') := by
  rcases Entry.shape_cases (h.entry l) with heq | ⟨_, c', _, hc'⟩
  · exact ⟨c, heq.trans hd⟩
  · exact ⟨c', hc'⟩

theorem map_ite {ε α β : Type} {f : α → β} {c : Prop} [Decidable c] {x x' y y' : Except ε α}
    (hx : x'.map f = x.map f) (hy : y'.map f = y.map f) :
    (if c then x' else y').map f = (if c then x else y).map f := by
  by_cases hc : c
  · rw [if_pos hc, if_pos hc, hx]
  · rw [if_neg hc, if_neg hc, hy]

theorem stretch (h : Alike d d') (goal : Goal) (l : Location) (names : List String) :
    (d'.stretch goal l names).map Stretch.shape = (d.stretch goal l names).map Stretch.shape := by
  induction names generalizing l with
  | nil =>
    show Except.ok (Stretch.arrived l ((d'.entryAt l).map Entry.shape)) = _
    rw [h.entry l]
    rfl
  | cons name rest ih =>
    rw [Disk.stretch, Disk.stretch, h.accessAt l]
    -- the way goes on the same unless files stand here, and then both ways end in a fault
    rcases Entry.shape_cases (h.entry l) with heq | ⟨c, c', hc, hc'⟩
    · rw [heq]
      match d.entryAt l with
      | none => rfl
      | some (.file _) => rfl
      | some (.link _) => rfl
      | some .directory =>
        refine map_ite (ih l) (map_ite rfl (map_ite (ih l) (map_ite (ih l.dropLast)
          (map_ite rfl (map_ite rfl ?_)))))
        rcases Entry.shape_cases (h.entry (l ++ [name])) with heq' | ⟨c, c', hc, hc'⟩
        · rw [heq']
          match d.entryAt (l ++ [name]) with
          | none => rfl
          | some (.link _) => rfl
          | some (.file _) => exact ih (l ++ [name])
          | some .directory => exact ih (l ++ [name])
        · rw [hc, hc']
          exact ih (l ++ [name])
    · rw [hc, hc']

/-- Ways of one shape both fail, both arrive, or both meet the same link. -/
theorem shape_stretch_cases {x x' : Except IoFault Stretch}
    (h : x'.map Stretch.shape = x.map Stretch.shape) :
    x' = x ∨ ∃ l e e', x = .ok (.arrived l e) ∧ x' = .ok (.arrived l e')
      ∧ e'.map Entry.shape = e.map Entry.shape := by
  match x, x' with
  | .error _, .error _ =>
    left
    simpa [Except.map] using h
  | .error _, .ok _ => simp [Except.map] at h
  | .ok _, .error _ => simp [Except.map] at h
  | .ok (.arrived l e), .ok (.arrived l' e') =>
    obtain ⟨rfl, he⟩ : l' = l ∧ e'.map Entry.shape = e.map Entry.shape := by
      simpa [Except.map, Stretch.shape] using h
    exact .inr ⟨l', e, e', rfl, rfl, he⟩
  | .ok (.arrived ..), .ok (.atLink ..) => simp [Except.map, Stretch.shape] at h
  | .ok (.atLink ..), .ok (.arrived ..) => simp [Except.map, Stretch.shape] at h
  | .ok (.atLink ..), .ok (.atLink ..) =>
    left
    simpa [Except.map, Stretch.shape] using h

/-- What a walk finds, without what it holds. -/
def found (r : Except IoFault (Location × Option Entry)) : Except IoFault (Location × Option Entry) :=
  r.map fun p => (p.1, p.2.map Entry.shape)

theorem walk (h : Alike d d') (goal : Goal) (links : Nat) (l : Location) (names : List String) :
    found (d'.walk goal links l names) = found (d.walk goal links l names) := by
  induction links generalizing l names with
  | zero =>
    unfold Disk.walk
    rcases shape_stretch_cases (h.stretch goal l names) with heq | ⟨l', e, e', hx, hx', he⟩
    · rw [heq]
      match d.stretch goal l names with
      | .error _ => rfl
      | .ok (.arrived ..) => rfl
      | .ok (.atLink ..) => rfl
    · rw [hx, hx']
      show Except.ok (l', e'.map Entry.shape) = Except.ok (l', e.map Entry.shape)
      rw [he]
  | succ links ih =>
    unfold Disk.walk
    rcases shape_stretch_cases (h.stretch goal l names) with heq | ⟨l', e, e', hx, hx', he⟩
    · rw [heq]
      match d.stretch goal l names with
      | .error _ => rfl
      | .ok (.arrived ..) => rfl
      | .ok (.atLink ..) => exact ih ..
    · rw [hx, hx']
      show Except.ok (l', e'.map Entry.shape) = Except.ok (l', e.map Entry.shape)
      rw [he]

theorem resolveNames (h : Alike d d') (goal : Goal) (p : Path) (names : List String) :
    found (d'.resolveNames goal p names) = found (d.resolveNames goal p names) := by
  have hstart : d'.startOf p = d.startOf p := by
    rw [Disk.startOf, Disk.startOf, h.workingDir]
  rw [Disk.resolveNames, Disk.resolveNames, hstart]
  cases pathFault? p with
  | some fault => rfl
  | none => exact h.walk goal maxLinks (d.startOf p) names

theorem resolve (h : Alike d d') (goal : Goal) (p : Path) :
    found (d'.resolve goal p) = found (d.resolve goal p) := h.resolveNames goal p (namesOf p)

/-- A path that leads to a directory leads to the same directory on the other disk. -/
theorem find_directory (h : Alike d d') {p : Path} {l : Location}
    (hd : d.find p = .ok (l, .directory)) : d'.find p = .ok (l, .directory) := by
  have hr := h.resolve .target p
  unfold Disk.find at hd ⊢
  generalize d.resolve .target p = x at hr hd
  generalize d'.resolve .target p = x' at hr
  match x with
  | .error _ => cases hd
  | .ok (_, none) => cases hd
  | .ok (_, some _) =>
    cases hd
    match x' with
    | .error _ => simp [found, Except.map] at hr
    | .ok (_, none) => simp [found, Except.map] at hr
    | .ok (_, some .directory) =>
      obtain rfl : _ = l := by simpa [found, Except.map] using hr
      rfl
    | .ok (_, some (.file _)) => simp [found, Except.map, Entry.shape] at hr
    | .ok (_, some (.link _)) => simp [found, Except.map, Entry.shape] at hr

/-- The same paths lead to directories on both disks. -/
theorem isDirectory_iff (h : Alike d d') {p : Path} : d'.isDirectory p ↔ d.isDirectory p := by
  rw [Disk.isDirectory_iff, Disk.isDirectory_iff]
  exact ⟨fun ⟨l, hl⟩ => ⟨l, h.symm.find_directory hl⟩, fun ⟨l, hl⟩ => ⟨l, h.find_directory hl⟩⟩

end Alike

theorem entryAt_of_ne_nil (d : Disk) {l : Location} (h : l ≠ []) : d.entryAt l = d.entries.find? l :=
  if_neg h

/-- A file whose content is replaced is still a file. -/
theorem Alike.put {d : Disk} {l : Location} {c : Bytes} (h : d.entryAt l = some (.file c))
    (c' : Bytes) : Alike d (d.put l (.file c')) := by
  refine ⟨rfl, rfl, fun l' => ?_⟩
  by_cases hnil : l' = []
  · rw [hnil]
    rfl
  · rw [entryAt_of_ne_nil _ hnil]
    show (SortedMap.find? (d.entries.insert l (.file c')) l').map Entry.shape = _
    by_cases heq : l' = l
    · rw [heq, SortedMap.find?_insert_self, h]
      rfl
    · rw [SortedMap.find?_insert_of_ne _ _ heq, entryAt_of_ne_nil d hnil]

/-- What stands anywhere below a directory. -/
theorem mem_below_iff {d : Disk} {l : Location} {names : List String} {e : Entry} :
    (names, e) ∈ d.below l ↔ names ≠ [] ∧ d.entryAt (l ++ names) = some e := by
  rw [below, List.mem_filterMap]
  constructor
  · rintro ⟨⟨l', e'⟩, hentries, hif⟩
    split_ifs at hif with hcond
    cases hif
    rw [Bool.and_eq_true, List.isPrefixOf_iff_prefix] at hcond
    obtain ⟨⟨rest, rfl⟩, hlength⟩ := hcond
    have hrest : rest ≠ [] := by
      rintro rfl
      simp at hlength
    rw [List.drop_left, entryAt_of_ne_nil d (List.append_ne_nil_of_right_ne_nil l hrest)]
    exact ⟨hrest, SortedMap.find?_eq_some_iff.mpr hentries⟩
  · rintro ⟨hnames, he⟩
    rw [entryAt_of_ne_nil d (List.append_ne_nil_of_right_ne_nil l hnames)] at he
    refine ⟨(l ++ names, e), SortedMap.find?_eq_some_iff.mp he, ?_⟩
    have hlength : 0 < names.length := List.length_pos_of_ne_nil hnames
    simp [hlength]

/-- What stands directly in a directory. -/
theorem mem_children_iff {d : Disk} {l : Location} {name : String} {e : Entry} :
    (name, e) ∈ d.children l ↔ d.entryAt (l ++ [name]) = some e := by
  rw [children, List.mem_filterMap]
  constructor
  · rintro ⟨⟨names, e'⟩, hmem, hsome⟩
    match names with
    | [] => cases hsome
    | [n] =>
      cases hsome
      exact (mem_below_iff.mp hmem).2
    | _ :: _ :: _ => cases hsome
  · intro he
    exact ⟨([name], e), mem_below_iff.mpr ⟨List.cons_ne_nil name [], he⟩, rfl⟩

/-- What stands directly in a directory has different names. -/
theorem nodup_children (d : Disk) (l : Location) : ((d.children l).map Prod.fst).Nodup := by
  have hbelow : (d.below l).Nodup := by
    refine d.entries.nodup_entries.filterMap ?_
    rintro ⟨l₁, e₁⟩ ⟨l₂, e₂⟩ q h₁ h₂
    rw [Option.mem_def, Option.ite_none_right_eq_some] at h₁ h₂
    obtain ⟨hl₁, hq₁⟩ := h₁
    obtain ⟨hl₂, hq₂⟩ := h₂
    rw [Bool.and_eq_true, List.isPrefixOf_iff_prefix] at hl₁ hl₂
    obtain ⟨⟨more₁, rfl⟩, -⟩ := hl₁
    obtain ⟨⟨more₂, rfl⟩, -⟩ := hl₂
    have heq := hq₁.trans hq₂.symm
    rw [List.drop_left, List.drop_left] at heq
    cases heq
    rfl
  have hchildren : (d.children l).Nodup := by
    refine hbelow.filterMap ?_
    rintro ⟨names₁, e₁⟩ ⟨names₂, e₂⟩ q h₁ h₂
    rcases names₁ with _ | ⟨name₁, _ | _⟩
    · cases h₁
    · rcases names₂ with _ | ⟨name₂, _ | _⟩
      · cases h₂
      · cases h₁
        cases h₂
        rfl
      · cases h₂
    · cases h₁
  refine hchildren.map_on ?_
  rintro ⟨name, e⟩ he ⟨name', e'⟩ he' heq
  obtain rfl : name = name' := heq
  rw [mem_children_iff] at he he'
  rw [Option.some.inj (he.symm.trans he')]

/-- A file that holds the encoding of a text reads as that text. -/
theorem readText_of_read {d : Disk} {p : Path} {text : String}
    (h : d.read p = .ok (Text.Utf8.encode text)) : d.readText p = .ok text := by
  rw [readText, h]
  dsimp only
  rw [Text.Utf8.decode?_encode]

/-- A file that holds the encoding of a text reads as that text, if it may be read. -/
theorem readText_of_find {d : Disk} {p : Path} {l : Location} {text : String}
    (h : d.find p = .ok (l, .file (Text.Utf8.encode text))) :
    d.readText p = if (d.accessAt l).read then .ok text else .error .denied := by
  have hread : d.read p
      = if (d.accessAt l).read then .ok (Text.Utf8.encode text) else .error .denied := by
    rw [read, openFile, h]
    dsimp only
    by_cases hmay : (d.accessAt l).read
    · rw [if_pos hmay, if_pos hmay]
    · rw [if_neg hmay, if_neg hmay]
  by_cases hmay : (d.accessAt l).read
  · rw [if_pos hmay] at hread ⊢
    exact readText_of_read hread
  · rw [if_neg hmay] at hread ⊢
    rw [readText, hread]

/-- A file that was replaced holds the new octets. -/
theorem find?_of_replace {p : Path} {octets : Bytes} {d d' : Disk} {l : Location}
    (h : replace p octets d = (.ok l, d')) : d'.entries.find? l = some (.file octets) := by
  unfold replace at h
  cases hw : d.writable ((besideDir p).child besideName) with
  | error fault =>
    rw [hw] at h
    cases h
  | ok _ =>
    rw [hw] at h
    dsimp only at h
    cases hr : d.renameTarget p with
    | error fault =>
      rw [hr] at h
      cases h
    | ok l' =>
      rw [hr] at h
      cases h
      exact SortedMap.find?_insert_self ..

end Disk

namespace World

/-- A log that is written changes what files hold and nothing else of the disk. -/
theorem alike_record (w : World) (e : Event) : Disk.Alike w.disk (w.record e).disk := by
  unfold record
  cases w.logFile with
  | none => exact .refl w.disk
  | some f =>
    show Disk.Alike w.disk (writeAt f.location f.position (f.lineOf e) w.disk)
    unfold writeAt
    match f.lineOf e, hentry : w.disk.entryAt f.location with
    | _ :: _, some (.file _) => exact .put hentry _
    | [], _ => exact .refl w.disk
    | _ :: _, none => exact .refl w.disk
    | _ :: _, some .directory => exact .refl w.disk
    | _ :: _, some (.link _) => exact .refl w.disk

theorem alike_recordAll (w : World) (events : List Event) :
    Disk.Alike w.disk (w.recordAll events).disk := by
  induction events generalizing w with
  | nil => exact .refl w.disk
  | cons e rest ih => exact (w.alike_record e).trans (ih (w.record e))

end World

end RpmProvision
