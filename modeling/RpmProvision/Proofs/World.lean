/-
Worlds while a log is written.

Where the log goes into a file, every event changes the disk. What a step finds after some events is
therefore asked of the disk however the log goes on.

* **`recordAll`** — a world after some events;
* **`Keeps`** — something holds of the disk however the log goes on;
* **`spawn_cases`** — what a call of a tool does to a world;
* **`Session.onWorld_bind_of_ok`**, **`Session.onWorld_bind_of_error`** — a session goes on from the
  world that a step over the world alone has left.
-/
import Mathlib.Tactic.SplitIfs
import RpmProvision.World

namespace RpmProvision.World

/-- The world after some events. -/
def recordAll (w : World) (events : List Event) : World := events.foldl record w

@[simp] theorem recordAll_nil (w : World) : w.recordAll [] = w := rfl

@[simp] theorem recordAll_cons (w : World) (e : Event) (events : List Event) :
    w.recordAll (e :: events) = (w.record e).recordAll events := rfl

theorem recordAll_append (w : World) (before after : List Event) :
    w.recordAll (before ++ after) = (w.recordAll before).recordAll after :=
  List.foldl_append

@[simp] theorem calls_record (w : World) (e : Event) : (w.record e).calls = w.calls := by
  unfold record
  split <;> rfl

@[simp] theorem calls_recordAll (w : World) (events : List Event) :
    (w.recordAll events).calls = w.calls := by
  induction events generalizing w with
  | nil => rfl
  | cons e rest ih => rw [recordAll_cons, ih, calls_record]

/-- Without a file for the log, events are added to the log and nothing else changes. -/
theorem recordAll_of_logFile_eq_none {w : World} (h : w.logFile = none) (events : List Event) :
    w.recordAll events = { w with events := w.events ++ events } := by
  induction events generalizing w with
  | nil => simp
  | cons e rest ih =>
    have hrec := record_of_logFile_eq_none h e
    have hnone : (w.record e).logFile = none := by
      rw [hrec]
      exact h
    rw [recordAll_cons, ih hnone, hrec, List.append_assoc]
    rfl

/-- Something holds of the disk however the log goes on. -/
def Keeps (P : Disk → Prop) (w : World) : Prop := ∀ events, P (w.recordAll events).disk

namespace Keeps

variable {P : Disk → Prop} {w : World}

theorem now (h : w.Keeps P) : P w.disk := h []

theorem recordAll (h : w.Keeps P) (events : List Event) : (w.recordAll events).Keeps P := by
  intro more
  rw [← recordAll_append]
  exact h (events ++ more)

theorem record (h : w.Keeps P) (e : Event) : (w.record e).Keeps P := h.recordAll [e]

/-- Without a file for the log, the disk stays as it is. -/
theorem of_logFile_eq_none (hlog : w.logFile = none) (h : P w.disk) : w.Keeps P := by
  intro events
  rw [recordAll_of_logFile_eq_none hlog]
  exact h

end Keeps

/-- A tool that cannot be called leaves the world alone. One that answers may change the disk, and the
call is noted. -/
theorem spawn_cases (tools : Tools) (program : String) (args : List String) (w : World) :
    (∃ fault, spawn tools program args w = (.error fault, w)) ∨
      ∃ reply d, tools w.calls ⟨program, args⟩ w.disk = some (reply, d)
        ∧ spawn tools program args w
          = (.ok reply, { w with disk := d, calls := w.calls ++ [⟨⟨program, args⟩, w.disk⟩] }) := by
  unfold spawn
  split_ifs
  · exact .inl ⟨_, rfl⟩
  · cases tools w.calls ⟨program, args⟩ w.disk with
    | none => exact .inl ⟨_, rfl⟩
    | some answer => exact .inr ⟨answer.1, answer.2, rfl, rfl⟩

/-- A step over the disk that succeeds leaves all of the world but the disk. -/
theorem onDisk_eq_ok {ε α : Type} {x : Step Disk ε α} {w w' : World} {a : α}
    (h : onDisk x w = (.ok a, w')) :
    ∃ d, x w.disk = (.ok a, d) ∧ w' = { w with disk := d } := by
  rw [onDisk, Step.within_apply] at h
  obtain ⟨hfst, rfl⟩ := Prod.mk.inj h
  exact ⟨(x w.disk).2, Prod.ext hfst rfl, rfl⟩

end RpmProvision.World

namespace RpmProvision.Session

open Step

variable {τ ε α β : Type} {x : Step World ε α} {s : Session τ} {w : World}

theorem onWorld_apply {r : Except ε α} (h : x s.world = (r, w)) :
    onWorld x s = (r, ⟨w, s.agent⟩) := by
  rw [onWorld, within_apply, h]

theorem onWorld_bind_of_ok {a : α} (h : x s.world = (.ok a, w)) (f : α → Step (Session τ) ε β) :
    (onWorld x >>= f) s = f a ⟨w, s.agent⟩ := by
  rw [bind_apply, onWorld_apply h, andThen_ok]

theorem onWorld_bind_of_error {e : ε} (h : x s.world = (.error e, w))
    (f : α → Step (Session τ) ε β) : (onWorld x >>= f) s = (.error e, ⟨w, s.agent⟩) := by
  rw [bind_apply, onWorld_apply h, andThen_error]

end RpmProvision.Session
