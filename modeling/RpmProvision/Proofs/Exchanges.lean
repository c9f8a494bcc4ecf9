/-
Runs that keep a record of what they ask of the outside.

A cloner and an arbiter can be made to note every request with its answer. They act on the world and
on their own state as before, so a run that keeps the record is the same run.

* **`Cloner.recorded`**, **`Arbiter.recorded`** — collaborators that keep a record;
* **`mirrors_resolveGraph`** — without the record, a run that keeps one is the run itself.
-/
import RpmProvision.Proofs.Lifting

namespace RpmProvision

/-- A request to the outside, and the answer to it. -/
inductive Exchange where
  | lookup (r : Requirement) (answer : Except Error (List String))
  | clone (deps : Bool) (package : String) (answer : Except Error Bool)
  | convert (answer : Except Error Unit)
  | contents (answer : Summary)
  | restore (summary : Summary) (answer : Except Error Unit)
  | judge (candidates : List Path) (answer : Except Error (List Path))

/-- The requirement that was looked up, and the answer. -/
def Exchange.lookup? : Exchange → Option (Requirement × Except Error (List String))
  | .lookup r answer => some (r, answer)
  | _ => none

/-- The lookups among some exchanges. -/
def lookups (l : List Exchange) : List (Requirement × Except Error (List String)) :=
  l.filterMap Exchange.lookup?

/-- The state of collaborators that keep a record, and the record so far. -/
structure Recorded (τ : Type) where
  agent : τ
  record : List Exchange

variable {τ ε α : Type}

namespace Session

/-- The session with a record. -/
def withRecord (s : Session τ) (record : List Exchange) : Session (Recorded τ) :=
  ⟨s.world, ⟨s.agent, record⟩⟩

/-- The session without its record. -/
def forget (s : Session (Recorded τ)) : Session τ := ⟨s.world, s.agent.agent⟩

/-- What has been asked so far. -/
def record (s : Session (Recorded τ)) : List Exchange := s.agent.record

end Session

/-- Make a request and note it with its answer. -/
def noting (note : Except ε α → Exchange) (x : Step (Session τ) ε α) :
    Step (Session (Recorded τ)) ε α := fun s =>
  ((x s.forget).1, (x s.forget).2.withRecord (s.record ++ [note (x s.forget).1]))

theorem lookups_append (l l' : List Exchange) : lookups (l ++ l') = lookups l ++ lookups l' :=
  List.filterMap_append

theorem lookups_eq_nil {l : List Exchange} (h : ∀ e ∈ l, e.lookup? = none) : lookups l = [] :=
  List.filterMap_eq_nil_iff.mpr h

theorem record_noting (note : Except ε α → Exchange) (x : Step (Session τ) ε α)
    (s : Session (Recorded τ)) :
    (noting note x s).2.record = s.record ++ [note (noting note x s).1] := rfl

/-- The cloner that notes what it is asked. -/
def Cloner.recorded (c : Cloner τ) : Cloner (Recorded τ) where
  whatProvides r := noting (.lookup r) (c.whatProvides r)
  clonePackage deps package := noting (.clone deps package) (c.clonePackage deps package)
  convert := noting .convert c.convert
  contents s := ((c.contents s.forget).1,
    (c.contents s.forget).2.withRecord (s.record ++ [.contents (c.contents s.forget).1]))
  restore summary := noting (.restore summary) (c.restore summary)

/-- The arbiter that notes what it is asked. -/
def Arbiter.recorded (a : Arbiter τ) : Arbiter (Recorded τ) where
  installable candidates := noting (.judge candidates) (a.installable candidates)

/-- A request for a package stands last in the record. -/
theorem Cloner.record_clonePackage {c : Cloner τ} {deps : Bool} {package : String}
    {s s' : Session (Recorded τ)} {answer : Except Error Bool}
    (h : c.recorded.clonePackage deps package s = (answer, s')) :
    s'.record = s.record ++ [.clone deps package answer] := by
  obtain ⟨rfl, rfl⟩ := Prod.mk.inj h
  rfl

/-- The cloner whose answers are given. -/
def Cloner.ofAnswers (provides : Requirement → Except Error (List String))
    (clone : Bool → String → Except Error Bool) : Cloner τ where
  whatProvides r := Step.ofExcept (provides r)
  clonePackage deps package := Step.ofExcept (clone deps package)
  convert := pure ()
  contents s := (⟨Summary.currentVersion, ∅⟩, s)
  restore _ := pure ()

/-- The arbiter whose answers are given. -/
def Arbiter.ofAnswers (installable : List Path → Except Error (List Path)) : Arbiter τ where
  installable candidates := Step.ofExcept (installable candidates)

open Step

theorem mirrors_noting (note : Except ε α → Exchange) (x : Step (Session τ) ε α) :
    Mirrors (Session.mapAgent Recorded.agent) (noting note x) x := ⟨fun _ => rfl⟩

theorem Cloner.lifts_recorded (c : Cloner τ) : c.recorded.Lifts Recorded.agent c where
  whatProvides _ := mirrors_noting ..
  clonePackage _ _ := mirrors_noting ..
  convert := mirrors_noting ..
  contents _ := rfl
  restore _ := mirrors_noting ..

theorem Arbiter.lifts_recorded (a : Arbiter τ) : a.recorded.Lifts Recorded.agent a :=
  ⟨fun _ => mirrors_noting ..⟩

namespace Resolution

/-- The context whose cloner and arbiter note what they are asked. -/
def Context.recorded (ctx : Context τ) : Context (Recorded τ) :=
  { ctx with cloner := ctx.cloner.recorded, arbiter := ctx.arbiter.recorded }

/-- What has been asked so far. -/
def Progress.record (p : Progress (Recorded τ)) : List Exchange := p.session.record

/-- The progress without the record. -/
def Progress.forget (p : Progress (Recorded τ)) : Progress τ := ⟨p.session.forget, p.cache⟩

/-- The state without the record. -/
def RunState.forget (s : RunState (Recorded τ)) : RunState τ := ⟨s.graph, s.progress.forget⟩

/-- The state with a record. -/
def RunState.withRecord (s : RunState τ) (record : List Exchange) : RunState (Recorded τ) :=
  ⟨s.graph, ⟨s.progress.session.withRecord record, s.progress.cache⟩⟩

/-- What has been asked so far. -/
def RunState.record (s : RunState (Recorded τ)) : List Exchange := s.progress.record

@[simp] theorem RunState.forget_withRecord (s : RunState τ) (l : List Exchange) :
    (s.withRecord l).forget = s := rfl

theorem Context.lifts_recorded (ctx : Context τ) : ctx.recorded.Lifts Recorded.agent ctx :=
  ⟨ctx.cloner.lifts_recorded, ctx.arbiter.lifts_recorded, rfl, rfl, rfl⟩

variable (ctx : Context τ)

theorem mirrors_resolveUnresolved :
    Mirrors RunState.forget (resolveUnresolved ctx.recorded) (resolveUnresolved ctx) :=
  ctx.lifts_recorded.resolveUnresolved

/-- Without the record, a run that keeps one is the run itself. -/
theorem mirrors_resolveGraph (options : RunOptions) :
    Mirrors RunState.forget (resolveGraph ctx.recorded options) (resolveGraph ctx options) :=
  ctx.lifts_recorded.resolveGraph options

end Resolution

end RpmProvision
