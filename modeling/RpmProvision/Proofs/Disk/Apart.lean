/-
A file that is kept apart.

A file is replaced by a rename, and files beside it are opened and written. What is written elsewhere
does not change where the rename ends up: a file that comes to be where nothing or another file was
gives no path a new end.

* **`Apart`** — a rename to one path ends at a location, and writing to another path does not;
* **`renameTarget_put`**, **`writable_put`** — paths lead where they led before a file was put;
* **`Apart.write`** — what is written to the other path keeps the file apart;
* **`World.OnlyLogs`** — a world in which only the log has gone on.
-/
import RpmProvision.Proofs.Disk.Standing

namespace RpmProvision.Disk

open Step

/-- What stands at the location is the same on both disks, and so is what may be done with it. -/
def Untouched (l : Location) (d d' : Disk) : Prop :=
  d'.entryAt l = d.entryAt l ∧ d'.accessAt l = d.accessAt l

theorem Untouched.refl (l : Location) (d : Disk) : Untouched l d d := ⟨rfl, rfl⟩

theorem Untouched.trans {l : Location} {d d' d'' : Disk} (h : Untouched l d d')
    (h' : Untouched l d' d'') : Untouched l d d'' := ⟨h'.1.trans h.1, h'.2.trans h.2⟩

theorem untouched_put {l l' : Location} (h : l ≠ l') (d : Disk) (e : Entry) :
    Untouched l d (d.put l' e) := ⟨entryAt_put_of_ne d h e, rfl⟩

/-- Where a rename ends: at the last name of the path, which is a proper one, where no directory
is. -/
theorem renameTarget_eq_ok_iff {d : Disk} {p : Path} {l : Location} :
    d.renameTarget p = .ok l ↔ ∃ e last,
      d.resolveNames .entry p (p.pieces.filter (· ≠ "")) = .ok (l, e)
        ∧ (p.pieces.filter (· ≠ "")).getLast? = some last ∧ ¬ (last = "." ∨ last = "..")
        ∧ ¬ p.endsInSlash ∧ e ≠ some .directory := by
  unfold renameTarget
  match d.resolveNames .entry p (p.pieces.filter (· ≠ "")) with
  | .error fault => cases fault <;> simp
  | .ok (l', e) =>
    match (p.pieces.filter (· ≠ "")).getLast? with
    | none => simp
    | some last =>
      constructor
      · intro h
        dsimp only at h
        split_ifs at h with hname hslash he
        cases h
        exact ⟨e, last, rfl, rfl, hname, hslash, he⟩
      · rintro ⟨e, last, h, hlast, hname, hslash, he⟩
        cases h
        cases hlast
        dsimp only
        rw [if_neg hname, if_neg hslash, if_neg he]

theorem entryAt_of_resolveNames {d : Disk} {goal : Goal} {p : Path} {names : List String}
    {l : Location} {e : Option Entry} (h : d.resolveNames goal p names = .ok (l, e)) :
    d.entryAt l = e := by
  unfold resolveNames at h
  cases hp : pathFault? p with
  | some fault =>
    rw [hp] at h
    cases h
  | none =>
    rw [hp] at h
    exact entryAt_of_walk h

/-! ### Disks that differ in contents -/

namespace Alike

variable {d d' : Disk}

theorem resolveNames_eq_ok (h : Alike d d') {goal : Goal} {p : Path} {names : List String}
    {l : Location} {e' : Option Entry} (hr' : d'.resolveNames goal p names = .ok (l, e')) :
    ∃ e, d.resolveNames goal p names = .ok (l, e)
      ∧ (e' = e ∨ ∃ c c', e = some (.file c) ∧ e' = some (.file c')) := by
  have hr := h.resolveNames goal p names
  rw [hr'] at hr
  match hd : d.resolveNames goal p names with
  | .error _ =>
    rw [hd] at hr
    cases hr
  | .ok (l₁, e) =>
    rw [hd] at hr
    obtain ⟨rfl, he⟩ : l = l₁ ∧ e'.map Entry.shape = e.map Entry.shape := by
      simpa [found, Except.map] using hr
    exact ⟨e, rfl, Entry.shape_cases he⟩

theorem renameTarget_eq_ok (h : Alike d d') {p : Path} {l : Location}
    (hr : d'.renameTarget p = .ok l) : d.renameTarget p = .ok l := by
  obtain ⟨e', last, hr', hlast, hname, hslash, hne⟩ := renameTarget_eq_ok_iff.mp hr
  obtain ⟨e, hd, rfl | ⟨c, c', rfl, rfl⟩⟩ := h.resolveNames_eq_ok hr'
  · exact renameTarget_eq_ok_iff.mpr ⟨e', last, hd, hlast, hname, hslash, hne⟩
  · exact renameTarget_eq_ok_iff.mpr ⟨some (.file c), last, hd, hlast, hname, hslash, by simp⟩

theorem writable_eq_ok (h : Alike d d') {p : Path} {l : Location} (hw : d'.writable p = .ok l) :
    d.writable p = .ok l := by
  obtain ⟨e', hr', hne, hmay⟩ := writable_eq_ok_iff.mp hw
  have hchange : d'.mayChangeAround l = d.mayChangeAround l := by
    rw [mayChangeAround, mayChangeAround, h.accessAt]
  rw [hchange, h.accessAt] at hmay
  obtain ⟨e, hd, rfl | ⟨c, c', rfl, rfl⟩⟩ := h.resolveNames_eq_ok hr'
  · exact writable_eq_ok_iff.mpr ⟨e', hd, hne, hmay⟩
  · exact writable_eq_ok_iff.mpr ⟨some (.file c), hd, by simp, hmay⟩

end Alike

/-! ### A file that is put -/

section Put

variable {d : Disk} {l₀ : Location} (hl₀ : d.entryAt l₀ ≠ some .directory) {c : Bytes} {goal : Goal}

include hl₀

theorem ne_nil_of_ne_directory : l₀ ≠ [] := by
  rintro rfl
  exact hl₀ rfl

/-- Where there is a directory once a file was put, there was one before. -/
theorem directory_of_put {l : Location} (h : (d.put l₀ (.file c)).entryAt l = some .directory) :
    d.entryAt l = some .directory := by
  by_cases heq : l = l₀
  · rw [heq, entryAt_put_self d (ne_nil_of_ne_directory hl₀)] at h
    cases h
  · rw [← entryAt_put_of_ne d heq (.file c)]
    exact h

/-- Names that lead somewhere once a file was put led there before, unless they lead to the file. If
the last name itself is looked for, it was there before also then. -/
theorem stretch_put {l : Location} {names : List String} {s : Stretch}
    (h : (d.put l₀ (.file c)).stretch goal l names = .ok s) :
    d.stretch goal l names = .ok s ∨ ∃ e, s = .arrived l₀ e
      ∧ (goal = .entry → ∃ e₀, d.stretch goal l names = .ok (.arrived l₀ e₀)) := by
  have hfile : (d.put l₀ (.file c)).entryAt l₀ = some (.file c) :=
    entryAt_put_self d (ne_nil_of_ne_directory hl₀) _
  induction names generalizing l with
  | nil =>
    cases h
    by_cases heq : l = l₀
    · rw [heq]
      exact .inr ⟨_, rfl, fun _ => ⟨d.entryAt l₀, rfl⟩⟩
    · rw [entryAt_put_of_ne d heq]
      exact .inl rfl
  | cons name rest ih =>
    have hl : (d.put l₀ (.file c)).entryAt l = some .directory := directory_of_stretch_cons h
    rw [Disk.stretch, hl] at h
    rw [Disk.stretch, directory_of_put hl₀ hl]
    change (if _ then _ else if (!(d.accessAt l).search) = true then _ else _) = _ at h
    dsimp only at h ⊢
    by_cases hempty : name = ""
    · rw [if_pos hempty] at h ⊢
      exact ih h
    by_cases hsearch : (!(d.accessAt l).search) = true
    · rw [if_neg hempty, if_pos hsearch] at h
      cases h
    by_cases hhere : name = "."
    · rw [if_neg hempty, if_neg hsearch, if_pos hhere] at h ⊢
      exact ih h
    by_cases hup : name = ".."
    · rw [if_neg hempty, if_neg hsearch, if_neg hhere, if_pos hup] at h ⊢
      exact ih h
    by_cases hout : goal = .output ∧ rest = [""]
    · rw [if_neg hempty, if_neg hsearch, if_neg hhere, if_neg hup, if_pos hout] at h
      cases h
    by_cases hsize : maxNameSize < name.utf8ByteSize
    · rw [if_neg hempty, if_neg hsearch, if_neg hhere, if_neg hup, if_neg hout, if_pos hsize] at h
      cases h
    rw [if_neg hempty, if_neg hsearch, if_neg hhere, if_neg hup, if_neg hout, if_neg hsize] at h ⊢
    by_cases heq : l ++ [name] = l₀
    · -- the names come to the file, which must be the end of them
      rw [heq] at h ⊢
      rw [hfile] at h
      cases rest with
      | cons n more =>
        rw [Disk.stretch, hfile] at h
        cases h
      | nil =>
        cases h
        refine .inr ⟨_, rfl, fun hgoal => ?_⟩
        rcases he : d.entryAt l₀ with _ | _ | c' | target
        · exact ⟨none, rfl⟩
        · exact absurd he hl₀
        · exact ⟨_, rfl⟩
        · exact ⟨some (.link target), if_pos ⟨rfl, hgoal⟩⟩
    · rw [entryAt_put_of_ne d heq] at h
      rcases he : d.entryAt (l ++ [name]) with _ | _ | _ | target
      · rw [he] at h
        exact .inl h
      · rw [he] at h
        exact ih h
      · rw [he] at h
        exact ih h
      · rw [he] at h
        exact .inl h

/-- The same of names that lead past links. -/
theorem walk_put {links : Nat} {l l' : Location} {names : List String} {e : Option Entry}
    (h : (d.put l₀ (.file c)).walk goal links l names = .ok (l', e)) :
    d.walk goal links l names = .ok (l', e) ∨ l' = l₀
      ∧ (goal = .entry → ∃ e₀, d.walk goal links l names = .ok (l₀, e₀)) := by
  fun_induction Disk.walk (d.put l₀ (.file c)) goal links l names with
  | case2 links _ _ _ _ hs =>
    cases h
    rcases stretch_put hl₀ hs with hd | ⟨e', heq, hentry⟩
    · exact .inl (walk_of_arrived hd links)
    · cases heq
      refine .inr ⟨rfl, fun hgoal => ?_⟩
      obtain ⟨e₀, hd⟩ := hentry hgoal
      exact ⟨e₀, walk_of_arrived hd links⟩
  | case4 _ _ links dir target rest hs ih =>
    rcases stretch_put hl₀ hs with hd | ⟨e', heq, -⟩
    · rw [walk_of_atLink hd]
      exact ih h
    · cases heq
  | _ => cases h

theorem resolveNames_put {p : Path} {names : List String} {l : Location} {e : Option Entry}
    (h : (d.put l₀ (.file c)).resolveNames goal p names = .ok (l, e)) :
    d.resolveNames goal p names = .ok (l, e) ∨ l = l₀
      ∧ (goal = .entry → ∃ e₀, d.resolveNames goal p names = .ok (l₀, e₀)) := by
  unfold resolveNames at h ⊢
  cases hp : pathFault? p with
  | some fault =>
    rw [hp] at h
    cases h
  | none =>
    rw [hp] at h
    exact walk_put hl₀ h

/-- What can be opened for writing once a file was put is that file, or could be before. -/
theorem writable_put {p : Path} {l : Location} (h : (d.put l₀ (.file c)).writable p = .ok l) :
    l = l₀ ∨ d.writable p = .ok l := by
  obtain ⟨e, hr, hne, hmay⟩ := writable_eq_ok_iff.mp h
  rcases resolveNames_put hl₀ hr with hd | ⟨rfl, -⟩
  · exact .inr (writable_eq_ok_iff.mpr ⟨e, hd, hne, hmay⟩)
  · exact .inl rfl

/-- A rename ends up where it would have before a file was put. -/
theorem renameTarget_put {p : Path} {l : Location}
    (h : (d.put l₀ (.file c)).renameTarget p = .ok l) : d.renameTarget p = .ok l := by
  obtain ⟨e, last, hr, hlast, hname, hslash, hne⟩ := renameTarget_eq_ok_iff.mp h
  rcases resolveNames_put hl₀ hr with hd | ⟨rfl, hentry⟩
  · exact renameTarget_eq_ok_iff.mpr ⟨e, last, hd, hlast, hname, hslash, hne⟩
  · obtain ⟨e₀, hd⟩ := hentry rfl
    have he₀ : e₀ ≠ some .directory := by
      rw [← entryAt_of_resolveNames hd]
      exact hl₀
    exact renameTarget_eq_ok_iff.mpr ⟨e₀, last, hd, hlast, hname, hslash, he₀⟩

end Put

/-! ### Keeping a file apart -/

/-- A rename to the first path ends at the location, if anywhere, and what is written to the second
path does not go there. -/
structure Apart (output : Path) (other : Option Path) (l : Location) (d : Disk) : Prop where
  output : ∀ l', d.renameTarget output = .ok l' → l' = l
  other : ∀ p, other = some p → d.writable p ≠ .ok l

namespace Apart

variable {output : Path} {other : Option Path} {l : Location} {d d' : Disk}

theorem alike (h : Apart output other l d) (halike : Alike d d') : Apart output other l d' where
  output l' hl' := h.output l' (halike.renameTarget_eq_ok hl')
  other p hp hw := h.other p hp (halike.writable_eq_ok hw)

theorem put (h : Apart output other l d) {l₀ : Location} (hl₀ : d.entryAt l₀ ≠ some .directory)
    (hne : l ≠ l₀) (c : Bytes) : Apart output other l (d.put l₀ (.file c)) where
  output l' hl' := h.output l' (renameTarget_put hl₀ hl')
  other p hp hw := (writable_put hl₀ hw).elim hne (h.other p hp)

/-- What is written to the other path keeps the file apart and does not touch it. -/
theorem write (h : Apart output other l d) {p : Path} (hp : other = some p) (content : Bytes) :
    Apart output other l (Disk.write p content d).2 ∧ Untouched l d (Disk.write p content d).2 := by
  unfold Disk.write
  rw [bind_apply, create]
  cases hw : d.writable p with
  | error fault => exact ⟨h, .refl l d⟩
  | ok l₀ =>
    have hl₀ : d.entryAt l₀ ≠ some .directory := entryAt_of_writable hw
    have hne : l ≠ l₀ := by
      rintro rfl
      exact h.other p hp hw
    -- the file is emptied first, and then filled
    have hfile : (d.put l₀ (.file [])).entryAt l₀ ≠ some .directory := by
      rw [entryAt_put_self d (ne_nil_of_ne_directory hl₀)]
      simp
    exact ⟨(h.put hl₀ hne []).put hfile hne content,
      (untouched_put hne d _).trans (untouched_put hne _ _)⟩

end Apart

end RpmProvision.Disk

namespace RpmProvision.World

theorem logFile_record {w : World} {e : Event} {f : LogFile}
    (h : (w.record e).logFile = some f) : ∃ f₀, w.logFile = some f₀ ∧ f.location = f₀.location := by
  unfold record at h
  cases hlog : w.logFile with
  | none =>
    rw [hlog] at h
    cases h
  | some f₀ =>
    rw [hlog] at h
    cases h
    exact ⟨f₀, rfl, rfl⟩

/-- What stands elsewhere is not touched when the log is written. -/
theorem untouched_record {w : World} {l : Location}
    (h : ∀ f, w.logFile = some f → f.location ≠ l) (e : Event) :
    Disk.Untouched l w.disk (w.record e).disk := by
  unfold record
  cases hlog : w.logFile with
  | none => exact .refl l w.disk
  | some f =>
    have hne : l ≠ f.location := fun heq => h f hlog heq.symm
    show Disk.Untouched l w.disk (writeAt f.location f.position (f.lineOf e) w.disk)
    unfold writeAt
    match f.lineOf e, w.disk.entryAt f.location with
    | _ :: _, some (.file _) => exact Disk.untouched_put hne w.disk _
    | [], _ => exact .refl l w.disk
    | _ :: _, none => exact .refl l w.disk
    | _ :: _, some .directory => exact .refl l w.disk
    | _ :: _, some (.link _) => exact .refl l w.disk

theorem untouched_recordAll {w : World} {l : Location}
    (h : ∀ f, w.logFile = some f → f.location ≠ l) (events : List Event) :
    Disk.Untouched l w.disk (w.recordAll events).disk := by
  induction events generalizing w with
  | nil => exact .refl l w.disk
  | cons e rest ih =>
    refine (untouched_record h e).trans (ih fun f hf => ?_)
    obtain ⟨f₀, hf₀, hl⟩ := logFile_record hf
    rw [hl]
    exact h f₀ hf₀

/-- In the later world nothing is new but the log: no program was called, no file has come or gone,
and no file holds anything else, apart from the one that the log is written to. -/
structure OnlyLogs (w w' : World) : Prop where
  calls : w'.calls = w.calls
  scratches : w'.scratches = w.scratches
  alike : Disk.Alike w.disk w'.disk
  untouched : ∀ l, (∀ f, w.logFile = some f → f.location ≠ l) → Disk.Untouched l w.disk w'.disk

theorem onlyLogs_recordAll (w : World) (events : List Event) : w.OnlyLogs (w.recordAll events) where
  calls := by
    induction events generalizing w with
    | nil => rfl
    | cons e rest ih =>
      rw [recordAll_cons, ih, record]
      cases w.logFile <;> rfl
  scratches := by
    induction events generalizing w with
    | nil => rfl
    | cons e rest ih =>
      rw [recordAll_cons, ih, record]
      cases w.logFile <;> rfl
  alike := w.alike_recordAll events
  untouched _ hl := untouched_recordAll hl events

theorem onlyLogs_record (w : World) (e : Event) : w.OnlyLogs (w.record e) :=
  w.onlyLogs_recordAll [e]

end RpmProvision.World
