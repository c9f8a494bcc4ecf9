/-
How steps end, and what they leave alone.

* **`bind_eq_ok`**, **`bind_eq_error`** — where a step made of two can end;
* **`Atomic`** — a step does nothing where it fails;
* **`Fails`** — every error of a step has a property;
* **`Maintains`** — what held of the state before a step holds after it, however the step ends;
* **`Extends`**, **`ExtendsOk`** — a step, or one that succeeds, only adds to a list, and only what has
  a property;
* **`Mirrors`** — two steps agree once a part of the state is forgotten.
-/
import RpmProvision.Step

namespace RpmProvision.Step

variable {σ σ' ρ ρ' ε ε' α β : Type}

/-! ### Where a step ends -/

theorem bind_eq_ok {x : Step σ ε α} {f : α → Step σ ε β} {s t : σ} {b : β} :
    (x >>= f) s = (.ok b, t) ↔ ∃ a s', x s = (.ok a, s') ∧ f a s' = (.ok b, t) := by
  rw [bind_apply]
  rcases x s with ⟨e | a, s'⟩
  · constructor
    · intro h
      simp at h
    · rintro ⟨a, s', h, -⟩
      simp at h
  · constructor
    · intro h
      exact ⟨a, s', rfl, h⟩
    · rintro ⟨a', s'', h, hf⟩
      cases h
      exact hf

theorem bind_eq_error {x : Step σ ε α} {f : α → Step σ ε β} {s t : σ} {e : ε} :
    (x >>= f) s = (.error e, t) ↔
      x s = (.error e, t) ∨ ∃ a s', x s = (.ok a, s') ∧ f a s' = (.error e, t) := by
  rw [bind_apply]
  rcases x s with ⟨e' | a, s'⟩
  · simp
  · constructor
    · intro h
      exact .inr ⟨a, s', rfl, h⟩
    · rintro (h | ⟨a', s'', h, hf⟩)
      · simp at h
      · cases h
        exact hf

theorem map_apply (f : α → β) (x : Step σ ε α) (s : σ) :
    (f <$> x) s = ((x s).1.map f, (x s).2) := by
  show andThen (fun a => (pure (f a) : Step σ ε β)) (x s) = _
  rcases x s with ⟨e | a, s'⟩ <;> rfl

theorem onError_apply (x : Step σ ε α) (f : ε → Step σ ε Unit) (s : σ) :
    x.onError f s = match x s with
      | (.ok a, s') => (.ok a, s')
      | (.error e, s') => (.error e, (f e s').2) := rfl

theorem snd_bind_pure (x : Step σ ε α) (f : α → β) (s : σ) :
    ((x >>= fun a => pure (f a)) s).2 = (x s).2 := by
  rw [bind_apply]
  rcases x s with ⟨e | a, s'⟩ <;> rfl

theorem snd_bind_ofExcept (x : Step σ ε α) (f : α → Except ε β) (s : σ) :
    ((x >>= fun a => ofExcept (f a)) s).2 = (x s).2 := by
  rw [bind_apply]
  rcases x s with ⟨e | a, s'⟩ <;> rfl

theorem mapError_eq_ok {f : ε → ε'} {x : Step σ ε α} {s s' : σ} {a : α}
    (h : x.mapError f s = (.ok a, s')) : x s = (.ok a, s') := by
  rw [mapError_apply] at h
  rcases hx : x s with ⟨e | a', s''⟩
  · rw [hx] at h
    cases h
  · rw [hx] at h
    cases h
    rfl

/-- What an error handler leaves alone is as the step left it. -/
theorem view_onError (view : σ → β) {f : ε → Step σ ε Unit} (h : ∀ e s, view (f e s).2 = view s)
    (x : Step σ ε α) (s : σ) : view (x.onError f s).2 = view (x s).2 := by
  rw [onError_apply]
  rcases x s with ⟨e | a, s'⟩
  · exact h e s'
  · rfl

/-! ### Steps that do nothing if they fail -/

theorem endOf_eq_ok {x : Step σ ε α} {s s' : σ} :
    x.endOf s = .ok s' ↔ ∃ a, x s = (.ok a, s') := by
  rw [endOf]
  rcases x s with ⟨e | a, s''⟩
  · constructor
    · intro h
      cases h
    · rintro ⟨a, h⟩
      cases h
  · constructor
    · intro h
      cases h
      exact ⟨a, rfl⟩
    · rintro ⟨a', h⟩
      cases h
      rfl

/-- The step leaves the state as it was where it fails. -/
structure Atomic (x : Step σ ε α) : Prop where
  of_error : ∀ {s e s'}, x s = (.error e, s') → s' = s

/-- What holds before an atomic step and wherever it succeeds holds after it. -/
theorem Atomic.after {P : σ → Prop} {x : Step σ ε α} (hx : Atomic x) {s : σ} (hs : P s)
    (hok : ∀ s', x.endOf s = .ok s' → P s') : P (x s).2 := by
  rcases h : x s with ⟨e | a, s'⟩
  · rw [hx.of_error h]
    exact hs
  · exact hok s' (endOf_eq_ok.mpr ⟨a, h⟩)

/-! ### Errors of a kind -/

/-- Every error that the step ends in has a property. -/
structure Fails (P : ε → Prop) (x : Step σ ε α) : Prop where
  of_error : ∀ s e, (x s).1 = .error e → P e

namespace Fails

variable {P : ε → Prop} {x : Step σ ε α}

theorem of_ok (h : ∀ s, ∃ a, (x s).1 = .ok a) : Fails P x := by
  refine ⟨fun s e he => ?_⟩
  obtain ⟨a, ha⟩ := h s
  rw [ha] at he
  cases he

theorem pure (a : α) : Fails P (pure a : Step σ ε α) := of_ok fun _ => ⟨a, rfl⟩

theorem fail {e : ε} (h : P e) : Fails P (fail e : Step σ ε α) := by
  refine ⟨fun s e' he => ?_⟩
  cases he
  exact h

theorem bind {f : α → Step σ ε β} (hx : Fails P x) (hf : ∀ a, Fails P (f a)) :
    Fails P (x >>= f) := by
  refine ⟨fun s e he => ?_⟩
  rw [bind_apply] at he
  rcases hs : x s with ⟨e' | a, s'⟩
  · rw [hs] at he
    cases he
    exact hx.of_error s e (by rw [hs])
  · rw [hs] at he
    exact (hf a).of_error s' e he

theorem mapError {Q : ε' → Prop} {f : ε → ε'} (hx : Fails P x) (hf : ∀ e, P e → Q (f e)) :
    Fails Q (x.mapError f) := by
  refine ⟨fun s e he => ?_⟩
  rw [mapError_apply] at he
  rcases hs : x s with ⟨e' | a, s'⟩
  · rw [hs] at he
    cases he
    exact hf e' (hx.of_error s e' (by rw [hs]))
  · rw [hs] at he
    cases he

theorem onError (hx : Fails P x) (f : ε → Step σ ε Unit) : Fails P (x.onError f) := by
  refine ⟨fun s e he => ?_⟩
  rw [onError_apply] at he
  rcases hs : x s with ⟨e' | a, s'⟩
  · rw [hs] at he
    cases he
    exact hx.of_error s e (by rw [hs])
  · rw [hs] at he
    cases he

theorem within {get : ρ → σ} {set : σ → ρ → ρ} (hx : Fails P x) : Fails P (x.within get set) :=
  ⟨fun r e he => hx.of_error (get r) e he⟩

theorem mono {Q : ε → Prop} (hx : Fails P x) (h : ∀ e, P e → Q e) : Fails Q x :=
  ⟨fun s e he => h e (hx.of_error s e he)⟩

end Fails

/-! ### What stays true -/

/-- If a property holds of the state, it still does after the step, with or without an error. -/
structure Maintains (P : σ → Prop) (x : Step σ ε α) : Prop where
  of_run : ∀ s, P s → P (x s).2

namespace Maintains

variable {P : σ → Prop} {x : Step σ ε α}

/-- A step that leaves the state alone. -/
theorem of_eq (h : ∀ s, (x s).2 = s) : Maintains P x := by
  refine ⟨fun s hs => ?_⟩
  rw [h s]
  exact hs

theorem pure (a : α) : Maintains P (pure a : Step σ ε α) := of_eq fun _ => rfl

theorem fail (e : ε) : Maintains P (fail e : Step σ ε α) := of_eq fun _ => rfl

theorem asks (f : σ → α) : Maintains P (asks f : Step σ ε α) := of_eq fun _ => rfl

theorem ofExcept (r : Except ε α) : Maintains P (ofExcept r : Step σ ε α) := of_eq fun _ => rfl

theorem modify {f : σ → σ} (h : ∀ s, P s → P (f s)) :
    Maintains P (modify f : Step σ ε Unit) := ⟨h⟩

theorem bind {f : α → Step σ ε β} (hx : Maintains P x) (hf : ∀ a, Maintains P (f a)) :
    Maintains P (x >>= f) := by
  refine ⟨fun s hs => ?_⟩
  have hs' := hx.of_run s hs
  rw [bind_apply]
  generalize x s = r at hs' ⊢
  match r with
  | (.error e, s') => exact hs'
  | (.ok a, s') => exact (hf a).of_run s' hs'

theorem mapError {f : ε → ε'} (hx : Maintains P x) : Maintains P (x.mapError f) := ⟨hx.of_run⟩

theorem outcome (hx : Maintains P x) : Maintains P (x.outcome : Step σ ε' (Except ε α)) :=
  ⟨hx.of_run⟩

theorem onError {f : ε → Step σ ε Unit} (hx : Maintains P x) (hf : ∀ e, Maintains P (f e)) :
    Maintains P (x.onError f) := by
  refine ⟨fun s hs => ?_⟩
  have hs' := hx.of_run s hs
  rw [onError_apply]
  generalize x s = r at hs' ⊢
  match r with
  | (.error e, s') => exact (hf e).of_run s' hs'
  | (.ok a, s') => exact hs'

theorem forM {f : α → Step σ ε PUnit} (hf : ∀ a, Maintains P (f a)) (l : List α) :
    Maintains P (l.forM f) := by
  induction l with
  | nil => exact .pure _
  | cons a rest ih => exact .bind (hf a) fun _ => ih

/-- A step over a part of the state. -/
theorem within {Q : ρ → Prop} {get : ρ → σ} {set : σ → ρ → ρ}
    (h : ∀ r, Q r → Q (set (x (get r)).2 r)) : Maintains Q (x.within get set) := ⟨h⟩

end Maintains

/-! ### Lists that grow -/

/-- The step only adds to a list in the state, and only elements with a property. -/
structure Extends (log : σ → List β) (P : β → Prop) (x : Step σ ε α) : Prop where
  exists_more : ∀ s, ∃ more, log (x s).2 = log s ++ more ∧ ∀ b ∈ more, P b

namespace Extends

variable {γ : Type} {log : σ → List γ} {P : γ → Prop} {x : Step σ ε α}

/-- A step that leaves the list alone. -/
theorem of_eq (h : ∀ s, log (x s).2 = log s) : Extends log P x := by
  refine ⟨fun s => ⟨[], ?_, ?_⟩⟩
  · rw [h s, List.append_nil]
  · intro b hb
    exact absurd hb List.not_mem_nil

theorem pure (a : α) : Extends log P (pure a : Step σ ε α) := of_eq fun _ => rfl

theorem fail (e : ε) : Extends log P (fail e : Step σ ε α) := of_eq fun _ => rfl

theorem bind {f : α → Step σ ε β} (hx : Extends log P x) (hf : ∀ a, Extends log P (f a)) :
    Extends log P (x >>= f) := by
  refine ⟨fun s => ?_⟩
  obtain ⟨l, hl, hP⟩ := hx.exists_more s
  rw [bind_apply]
  rcases hs : x s with ⟨e | a, s'⟩
  · exact ⟨l, by rw [hs] at hl; exact hl, hP⟩
  · obtain ⟨l', hl', hP'⟩ := (hf a).exists_more s'
    rw [hs] at hl
    -- what the second step adds stands behind what the first has added
    refine ⟨l ++ l', ?_, ?_⟩
    · show log (f a s').2 = _
      rw [hl', hl, List.append_assoc]
    · intro b hb
      rcases List.mem_append.mp hb with hb | hb
      · exact hP b hb
      · exact hP' b hb

theorem mapError {f : ε → ε'} (hx : Extends log P x) : Extends log P (x.mapError f) :=
  ⟨hx.exists_more⟩

theorem forM {f : α → Step σ ε PUnit} (hf : ∀ a, Extends log P (f a)) (l : List α) :
    Extends log P (l.forM f) := by
  induction l with
  | nil => exact .pure _
  | cons a rest ih => exact .bind (hf a) fun _ => ih

theorem onError {f : ε → Step σ ε Unit} (hx : Extends log P x)
    (hf : ∀ e, Extends log P (f e)) : Extends log P (x.onError f) := by
  refine ⟨fun s => ?_⟩
  obtain ⟨l, hl, hP⟩ := hx.exists_more s
  rw [onError_apply]
  rcases hs : x s with ⟨e | a, s'⟩
  · obtain ⟨l', hl', hP'⟩ := (hf e).exists_more s'
    rw [hs] at hl
    refine ⟨l ++ l', ?_, ?_⟩
    · show log (f e s').2 = _
      rw [hl', hl, List.append_assoc]
    · intro b hb
      rcases List.mem_append.mp hb with hb | hb
      · exact hP b hb
      · exact hP' b hb
  · exact ⟨l, by rw [hs] at hl; exact hl, hP⟩

/-- A step over a part of the state that has the list. -/
theorem within {log' : ρ → List γ} {get : ρ → σ} {set : σ → ρ → ρ} (hx : Extends log P x)
    (hget : ∀ r, log (get r) = log' r) (hset : ∀ s r, log' (set s r) = log s) :
    Extends log' P (x.within get set) := by
  refine ⟨fun r => ?_⟩
  obtain ⟨l, hl, hP⟩ := hx.exists_more (get r)
  exact ⟨l, by rw [within_apply, hset, hl, hget], hP⟩

theorem mono {Q : γ → Prop} (hx : Extends log P x) (h : ∀ b, P b → Q b) : Extends log Q x := by
  refine ⟨fun s => ?_⟩
  obtain ⟨l, hl, hP⟩ := hx.exists_more s
  exact ⟨l, hl, fun b hb => h b (hP b hb)⟩

end Extends

/-- The step, where it succeeds, only adds to a list in the state, and only elements with a property. -/
structure ExtendsOk (log : σ → List β) (P : β → Prop) (x : Step σ ε α) : Prop where
  exists_more : ∀ {s a s'}, x s = (.ok a, s') → ∃ more, log s' = log s ++ more ∧ ∀ b ∈ more, P b

namespace ExtendsOk

variable {γ : Type} {log : σ → List γ} {P : γ → Prop} {x : Step σ ε α}

theorem of_extends (hx : Extends log P x) : ExtendsOk log P x := by
  refine ⟨fun {s a s'} h => ?_⟩
  obtain ⟨more, hmore, hP⟩ := hx.exists_more s
  rw [h] at hmore
  exact ⟨more, hmore, hP⟩

theorem fail (e : ε) : ExtendsOk log P (fail e : Step σ ε α) :=
  of_extends (.fail e)

theorem bind {f : α → Step σ ε β} (hx : ExtendsOk log P x) (hf : ∀ a, ExtendsOk log P (f a)) :
    ExtendsOk log P (x >>= f) := by
  refine ⟨fun {s b s'} h => ?_⟩
  obtain ⟨a, s₁, ha, hb⟩ := bind_eq_ok.mp h
  obtain ⟨l, hl, hP⟩ := hx.exists_more ha
  obtain ⟨l', hl', hP'⟩ := (hf a).exists_more hb
  refine ⟨l ++ l', ?_, fun b hb => (List.mem_append.mp hb).elim (hP b) (hP' b)⟩
  rw [hl', hl, List.append_assoc]

theorem mapError {f : ε → ε'} (hx : ExtendsOk log P x) : ExtendsOk log P (x.mapError f) :=
  ⟨fun h => hx.exists_more (mapError_eq_ok h)⟩

/-- What is done about an error does not count. -/
theorem onError (hx : ExtendsOk log P x) (f : ε → Step σ ε Unit) :
    ExtendsOk log P (x.onError f) := by
  refine ⟨fun {s a s'} h => ?_⟩
  rw [onError_apply] at h
  rcases hs : x s with ⟨e | a', s''⟩
  · rw [hs] at h
    cases h
  · rw [hs] at h
    cases h
    exact hx.exists_more hs

/-- A step over a part of the state that has the list. -/
theorem within {log' : ρ → List γ} {get : ρ → σ} {set : σ → ρ → ρ} (hx : ExtendsOk log P x)
    (hget : ∀ r, log (get r) = log' r) (hset : ∀ s r, log' (set s r) = log s) :
    ExtendsOk log' P (x.within get set) := by
  refine ⟨fun {r a r'} h => ?_⟩
  rw [within_apply] at h
  obtain ⟨hfst, rfl⟩ := Prod.mk.inj h
  obtain ⟨l, hl, hP⟩ := hx.exists_more (Prod.ext hfst rfl)
  exact ⟨l, by rw [hset, hl, hget], hP⟩

theorem mono {Q : γ → Prop} (hx : ExtendsOk log P x) (h : ∀ b, P b → Q b) : ExtendsOk log Q x := by
  refine ⟨fun hok => ?_⟩
  obtain ⟨l, hl, hP⟩ := hx.exists_more hok
  exact ⟨l, hl, fun b hb => h b (hP b hb)⟩

end ExtendsOk

/-! ### Steps that agree -/

/-- The second step does to a state without the forgotten part what the first does to the state. -/
structure Mirrors (forget : σ → σ') (x : Step σ ε α) (y : Step σ' ε α) : Prop where
  run_forget : ∀ s, y (forget s) = ((x s).1, forget (x s).2)

variable {forget : σ → σ'} {x : Step σ ε α} {y : Step σ' ε α}

namespace Mirrors

theorem pure (a : α) : Mirrors forget (pure a : Step σ ε α) (pure a) := ⟨fun _ => rfl⟩

theorem fail (e : ε) : Mirrors forget (fail e : Step σ ε α) (fail e) := ⟨fun _ => rfl⟩

theorem ofExcept (r : Except ε α) : Mirrors forget (ofExcept r) (ofExcept r) := ⟨fun _ => rfl⟩

theorem asks {f : σ → α} {g : σ' → α} (h : ∀ s, g (forget s) = f s) :
    Mirrors forget (asks f : Step σ ε α) (asks g) := by
  refine ⟨fun s => ?_⟩
  rw [asks_apply, asks_apply, h]

theorem modify {f : σ → σ} {g : σ' → σ'} (h : ∀ s, g (forget s) = forget (f s)) :
    Mirrors forget (modify f : Step σ ε Unit) (modify g) := by
  refine ⟨fun s => ?_⟩
  rw [modify_apply, modify_apply, h]

theorem bind {f : α → Step σ ε β} {g : α → Step σ' ε β} (hx : Mirrors forget x y)
    (hf : ∀ a, Mirrors forget (f a) (g a)) : Mirrors forget (x >>= f) (y >>= g) := by
  refine ⟨fun s => ?_⟩
  rw [bind_apply, bind_apply, hx.run_forget s]
  rcases x s with ⟨e | a, s'⟩
  · rfl
  · exact (hf a).run_forget s'

theorem outcome (hx : Mirrors forget x y) :
    Mirrors forget (x.outcome : Step σ ε' (Except ε α)) y.outcome := by
  refine ⟨fun s => ?_⟩
  rw [outcome_apply, outcome_apply, hx.run_forget s]

theorem mapError (hx : Mirrors forget x y) (f : ε → ε') :
    Mirrors forget (x.mapError f) (y.mapError f) := by
  refine ⟨fun s => ?_⟩
  rw [mapError_apply, mapError_apply, hx.run_forget s]

theorem onError {f : ε → Step σ ε Unit} {g : ε → Step σ' ε Unit} (hx : Mirrors forget x y)
    (hf : ∀ e, Mirrors forget (f e) (g e)) : Mirrors forget (x.onError f) (y.onError g) := by
  refine ⟨fun s => ?_⟩
  rw [onError_apply, onError_apply, hx.run_forget s]
  rcases x s with ⟨e | a, s'⟩
  · show (Except.error e, (g e (forget s')).2) = _
    rw [(hf e).run_forget s']
  · rfl

/-- A step over a part of the state, where forgetting is done part by part. -/
theorem within {forget' : ρ → ρ'} {get : ρ → σ} {set : σ → ρ → ρ}
    {get' : ρ' → σ'} {set' : σ' → ρ' → ρ'} (hx : Mirrors forget x y)
    (hget : ∀ r, get' (forget' r) = forget (get r))
    (hset : ∀ s r, set' (forget s) (forget' r) = forget' (set s r)) :
    Mirrors forget' (x.within get set) (y.within get' set') := by
  refine ⟨fun r => ?_⟩
  rw [within_apply, within_apply, hget, hx.run_forget (get r), hset]

end Mirrors

end RpmProvision.Step
