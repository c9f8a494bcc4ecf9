/-
Worlds whose disk only grows.

Up to a world nothing was touched that stood on the disk of an earlier one, apart from the file that
the log is written to. A scratch directory is new, so nothing is in it.

* **`World.Grown`** — the disk has only grown since; **`grown_recordAll`** — the log goes on;
* **`World.LogsTo`**, **`World.leads_recordAll`** — what the log does not write to stays as it is;
* **`World.makeScratch_eq_ok`** — a scratch directory is made where there was none.
-/
import RpmProvision.Proofs.Disk.Growth

namespace RpmProvision.World

open Step

/-- Where the file is that the log is written to. -/
def logLocation (w : World) : Option Location := w.logFile.map LogFile.location

/-- The log is written to the file that a path leads to. -/
def LogsTo (w : World) (p : Path) : Prop :=
  ∃ f e, w.logFile = some f ∧ w.disk.Leads p f.location e

theorem logsTo_of_leads {w : World} {p : Path} {l : Location} {e : Entry}
    (hlog : w.logLocation = some l) (hp : w.disk.Leads p l e) : w.LogsTo p := by
  obtain ⟨f, hf, rfl⟩ := Option.map_eq_some_iff.mp hlog
  exact ⟨f, e, hf, hp⟩

/-- The log is written to a file that is there, if to any. -/
def LogStands (w : World) : Prop :=
  ∀ l, w.logLocation = some l → ∃ c, w.disk.entryAt l = some (.file c)

/-- The log goes on in the file that it was written to. -/
theorem logLocation_recordAll (w : World) (events : List Event) :
    (w.recordAll events).logLocation = w.logLocation := by
  induction events generalizing w with
  | nil => rfl
  | cons e rest ih =>
    rw [recordAll_cons, ih, logLocation, logLocation, record]
    cases w.logFile <;> rfl

theorem untouched_recordAll_of_ne {w : World} {l : Location} (h : w.logLocation ≠ some l)
    (events : List Event) : Disk.Untouched l w.disk (w.recordAll events).disk := by
  refine untouched_recordAll (fun f hf hl => h ?_) events
  rw [logLocation, hf, ← hl]
  rfl

/-- What a file holds that the log is not written to is not changed by the log. -/
theorem leads_recordAll {w : World} {p : Path} {l : Location} {c : Bytes}
    (h : w.disk.Leads p l (.file c)) (events : List Event)
    (hlog : ¬ (w.recordAll events).LogsTo p) : (w.recordAll events).disk.Leads p l (.file c) := by
  have halike := w.alike_recordAll events
  obtain ⟨c', hc'⟩ := halike.file h.entryAt
  have hleads := h.of_retains (.of_alike halike) hc' (by simp)
  have hother : w.logLocation ≠ some l := by
    intro hl
    exact hlog (logsTo_of_leads ((w.logLocation_recordAll events).trans hl) hleads)
  rw [(untouched_recordAll_of_ne hother events).1, h.entryAt] at hc'
  cases hc'
  exact hleads

/-- The disk is a tree, and has only grown since an earlier world, and no program was called. -/
structure Grown (w w' : World) : Prop where
  calls : w'.calls = w.calls
  logLocation : w'.logLocation = w.logLocation
  grows : Disk.Grows w.logLocation w.disk w'.disk
  isTree : w'.disk.IsTree

namespace Grown

variable {w w' w'' : World}

theorem refl (h : w.disk.IsTree) : Grown w w := ⟨rfl, rfl, .refl w.disk, h⟩

theorem trans (h : Grown w w') (h' : Grown w' w'') : Grown w w'' where
  calls := h'.calls.trans h.calls
  logLocation := h'.logLocation.trans h.logLocation
  grows := h.grows.trans (h.logLocation ▸ h'.grows)
  isTree := h'.isTree

/-- A disk that only grows. -/
theorem of_disk {d : Disk} (h : Disk.Grows w.logLocation w.disk d) (htree : d.IsTree) :
    Grown w { w with disk := d } := ⟨rfl, rfl, h, htree⟩

theorem logStands (h : Grown w w') (hlog : w.LogStands) : w'.LogStands := by
  intro l hl
  obtain ⟨c, hc⟩ := hlog l (h.logLocation.symm.trans hl)
  exact h.grows.retains.file hc

end Grown

/-- Of the disk a log that goes on touches nothing but the file that it is written to. -/
theorem grown_recordAll {w : World} (h : w.disk.IsTree) (events : List Event) :
    Grown w (w.recordAll events) where
  calls := w.calls_recordAll events
  logLocation := w.logLocation_recordAll events
  grows := ⟨.of_alike (w.alike_recordAll events), fun _ hl _ => untouched_recordAll_of_ne hl events⟩
  isTree := h.alike (w.alike_recordAll events)

/-- Making directories only adds to a world. -/
theorem grown_onDisk_makeDirWithParents {w : World} (h : w.disk.IsTree) (p : Path) :
    Grown w (onDisk (Disk.makeDirWithParents p) w).2 := by
  obtain ⟨hgrows, htree⟩ := (Disk.maintains_makeDirWithParents w.logLocation w.disk p).of_run w.disk
    ⟨.refl w.disk, h⟩
  exact .of_disk hgrows htree

/-! ### Scratch directories -/

theorem isName_scratchName (k : Nat) : Path.IsName (scratchName k) := by
  have hdigits : '/' ∉ List.replicate (6 - (Nat.toDigits 10 k).length) '0' ++ Nat.toDigits 10 k := by
    intro hmem
    rcases List.mem_append.mp hmem with hmem | hmem
    · have heq := List.eq_of_mem_replicate hmem
      revert heq
      decide
    · have hdigit := Nat.isDigit_of_mem_toDigits (b := 10) (by omega) (by omega) hmem
      revert hdigit
      decide
  have htext : (scratchName k).toList = '.' :: 't' :: 'm' :: 'p'
      :: (List.replicate (6 - (Nat.toDigits 10 k).length) '0' ++ Nat.toDigits 10 k) := by
    rw [scratchName, String.toList_append]
    exact congrArg (['.', 't', 'm', 'p'] ++ ·) String.toList_ofList
  refine ⟨?_, ?_, ?_, ?_⟩
  · rw [htext]
    simpa using hdigits
  · intro heq
    simp [heq] at htext
  · intro heq
    simp [heq] at htext
  · intro heq
    simp [heq] at htext

theorem makeFree_eq_ok {dir path : Path} {k tries : Nat} {d d' : Disk}
    (h : makeFree dir k tries d = (.ok path, d')) :
    ∃ n l, path = dir.child (scratchName n) ∧ d.Room dir l (scratchName n)
      ∧ d' = d.renew (l ++ [scratchName n]) .directory := by
  induction tries generalizing k with
  | zero => cases h
  | succ tries ih =>
    rw [makeFree, bind_apply, outcome_apply, Disk.makeDir, Disk.add] at h
    rcases d.addWith_child_cases dir (isName_scratchName k) .full .directory with
      ⟨l, hroom, hadd⟩ | ⟨fault, hadd, -⟩
    · rw [hadd] at h
      cases h
      exact ⟨k, l, rfl, hroom, rfl⟩
    · rw [hadd] at h
      by_cases hthere : fault = .alreadyExists
      · subst hthere
        exact ih h
      · cases fault with
        | alreadyExists => exact absurd rfl hthere
        | _ => cases h

/-- A scratch directory is made where there was none. -/
theorem makeScratch_eq_ok {dir scratch : Path} {w w' : World} (htree : w.disk.IsTree)
    (h : makeScratch dir w = (.ok scratch, w')) :
    Grown w w' ∧ ∃ l, w'.disk.Fresh scratch l := by
  obtain ⟨path, w₁, hmake, h⟩ := bind_eq_ok.mp h
  obtain ⟨d, hfree, rfl⟩ := onDisk_eq_ok hmake
  obtain ⟨n, l, rfl, hroom, rfl⟩ := makeFree_eq_ok hfree
  cases h
  have hname := isName_scratchName n
  refine ⟨⟨rfl, rfl, (hroom.put hname (by simp) .full _).1, ?_⟩, _, hroom.fresh htree hname⟩
  exact htree.put_room hroom .directory .full

end RpmProvision.World
