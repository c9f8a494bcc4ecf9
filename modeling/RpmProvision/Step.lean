/-
Steps over a state.

A `Step σ ε α` takes a state of type `σ` and ends with a value or an error, and with a state in
either case: what was done before a failure stays done.

* **`bind_apply`**, **`pure_apply`**, **`fail_apply`** — what a step does to a given state.
-/

namespace RpmProvision

/-- A computation over a state that ends in a value or an error. -/
def Step (σ ε α : Type) : Type := σ → Except ε α × σ

namespace Step

variable {σ τ ε ε' α β γ : Type}

/-- What the first component decides: go on with the value, or stop with the error. -/
def andThen (f : α → Step σ ε β) : Except ε α × σ → Except ε β × σ
  | (.ok a, s) => f a s
  | (.error e, s) => (.error e, s)

instance : Monad (Step σ ε) where
  pure a := fun s => (.ok a, s)
  bind x f := fun s => andThen f (x s)

/-- Stop with an error. -/
def fail (e : ε) : Step σ ε α := fun s => (.error e, s)

/-- End as a computation without state does. -/
def ofExcept (r : Except ε α) : Step σ ε α := fun s => (r, s)

/-- Something about the state. -/
def asks (f : σ → α) : Step σ ε α := fun s => (.ok (f s), s)

/-- Change the state. -/
def modify (f : σ → σ) : Step σ ε Unit := fun s => (.ok (), f s)

/-- The outcome of a step as a value. -/
def outcome (x : Step σ ε α) : Step σ ε' (Except ε α) := fun s => (.ok (x s).1, (x s).2)

/-- Change the error. -/
def mapError (f : ε → ε') (x : Step σ ε α) : Step σ ε' α := fun s => ((x s).1.mapError f, (x s).2)

/-- Do something on an error, and stop with that error. -/
def onError (x : Step σ ε α) (f : ε → Step σ ε Unit) : Step σ ε α := fun s =>
  match x s with
  | (.ok a, s') => (.ok a, s')
  | (.error e, s') => (.error e, (f e s').2)

/-- A step over a part of the state. -/
def within (get : τ → σ) (set : σ → τ → τ) (x : Step σ ε α) : Step τ ε α := fun t =>
  ((x (get t)).1, set (x (get t)).2 t)

/-- The state that a step ends in, if it succeeds. -/
def endOf (x : Step σ ε α) (s : σ) : Except ε σ := (x s).1.map fun _ => (x s).2

/-! ### What a step does to a given state -/

@[simp] theorem pure_apply (a : α) (s : σ) : (pure a : Step σ ε α) s = (.ok a, s) := rfl

theorem bind_apply (x : Step σ ε α) (f : α → Step σ ε β) (s : σ) :
    (x >>= f) s = andThen f (x s) := rfl

@[simp] theorem fail_apply (e : ε) (s : σ) : (fail e : Step σ ε α) s = (.error e, s) := rfl

@[simp] theorem ofExcept_apply (r : Except ε α) (s : σ) :
    (ofExcept r : Step σ ε α) s = (r, s) := rfl

@[simp] theorem asks_apply (f : σ → α) (s : σ) : (asks f : Step σ ε α) s = (.ok (f s), s) := rfl

@[simp] theorem modify_apply (f : σ → σ) (s : σ) :
    (modify f : Step σ ε Unit) s = (.ok (), f s) := rfl

@[simp] theorem outcome_apply (x : Step σ ε α) (s : σ) :
    (x.outcome : Step σ ε' (Except ε α)) s = (.ok (x s).1, (x s).2) := rfl

@[simp] theorem mapError_apply (f : ε → ε') (x : Step σ ε α) (s : σ) :
    x.mapError f s = ((x s).1.mapError f, (x s).2) := rfl

@[simp] theorem within_apply (get : τ → σ) (set : σ → τ → τ) (x : Step σ ε α) (t : τ) :
    x.within get set t = ((x (get t)).1, set (x (get t)).2 t) := rfl

@[simp] theorem andThen_ok (f : α → Step σ ε β) (a : α) (s : σ) :
    andThen f (.ok a, s) = f a s := rfl

@[simp] theorem andThen_error (f : α → Step σ ε β) (e : ε) (s : σ) :
    andThen f (.error e, s) = (.error e, s) := rfl

theorem andThen_pure (r : Except ε α × σ) : andThen (fun a => (pure a : Step σ ε α)) r = r := by
  rcases r with ⟨_ | _, _⟩ <;> rfl

theorem andThen_andThen (f : α → Step σ ε β) (g : β → Step σ ε γ) (r : Except ε α × σ) :
    andThen g (andThen f r) = andThen (fun a => f a >>= g) r := by
  rcases r with ⟨_ | _, _⟩ <;> rfl

instance : LawfulMonad (Step σ ε) :=
  LawfulMonad.mk' _ (fun x => funext fun s => andThen_pure (x s)) (fun _ _ => rfl)
    (fun x f g => funext fun s => andThen_andThen f g (x s))

end Step

end RpmProvision
