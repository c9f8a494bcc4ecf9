/-
Steps that fail through their requests.

A step that notes its requests fails through one of them: the last one. Which error that is follows
from the request and its answer alone.

* **`errorOf`** — the error of a result;
* **`Blames`** — a step fails exactly if its last request does, and with the error of that request.
-/
import RpmProvision.Proofs.Step

namespace RpmProvision.Step

variable {σ ρ ε α β γ : Type}

/-- The error of a result. -/
def errorOf : Except ε α → Option ε
  | .error e => some e
  | .ok _ => none

theorem errorOf_eq_some {r : Except ε α} {e : ε} : errorOf r = some e ↔ r = .error e := by
  cases r <;> simp [errorOf]

/-- The step only adds requests to a record. If it succeeds, none of them fails. If it ends in an
error, that is the error of the last of them, and none before it fails. -/
structure Blames (record : σ → List γ) (failure? : γ → Option ε) (x : Step σ ε α) : Prop where
  of_ok : ∀ s a s', x s = (.ok a, s') →
    ∃ asked, record s' = record s ++ asked ∧ ∀ q ∈ asked, failure? q = none
  of_error : ∀ s e s', x s = (.error e, s') →
    ∃ front last, record s' = record s ++ (front ++ [last]) ∧ (∀ q ∈ front, failure? q = none)
      ∧ failure? last = some e

namespace Blames

variable {record : σ → List γ} {failure? : γ → Option ε} {x : Step σ ε α}

/-- A step that asks for nothing and cannot fail. -/
theorem of_silent (h : ∀ s, ∃ a, (x s).1 = .ok a) (hrecord : ∀ s, record (x s).2 = record s) :
    Blames record failure? x where
  of_ok s a s' hx := by
    have hs := hrecord s
    rw [hx] at hs
    exact ⟨[], by rw [List.append_nil, hs], fun _ hq => absurd hq List.not_mem_nil⟩
  of_error s e s' hx := by
    obtain ⟨a, ha⟩ := h s
    rw [hx] at ha
    cases ha

theorem pure (a : α) : Blames record failure? (pure a : Step σ ε α) :=
  of_silent (fun _ => ⟨a, rfl⟩) fun _ => rfl

/-- A step that makes one request, and fails exactly if that does. -/
theorem of_request (h : ∀ s, ∃ q, record (x s).2 = record s ++ [q]
    ∧ failure? q = errorOf (x s).1) : Blames record failure? x where
  of_ok s a s' hx := by
    obtain ⟨q, hq, hfail⟩ := h s
    rw [hx] at hq hfail
    refine ⟨[q], hq, fun q' hq' => ?_⟩
    rw [List.mem_singleton.mp hq']
    exact hfail
  of_error s e s' hx := by
    obtain ⟨q, hq, hfail⟩ := h s
    rw [hx] at hq hfail
    exact ⟨[], q, hq, fun _ hq' => absurd hq' List.not_mem_nil, hfail⟩

theorem bind {f : α → Step σ ε β} (hx : Blames record failure? x)
    (hf : ∀ a, Blames record failure? (f a)) : Blames record failure? (x >>= f) where
  of_ok s b s' h := by
    obtain ⟨a, s₁, hs₁, h⟩ := bind_eq_ok.mp h
    obtain ⟨asked, hasked, hnone⟩ := hx.of_ok s a s₁ hs₁
    obtain ⟨more, hmore, hnone'⟩ := (hf a).of_ok s₁ b s' h
    refine ⟨asked ++ more, by rw [hmore, hasked, List.append_assoc], fun q hq => ?_⟩
    exact (List.mem_append.mp hq).elim (hnone q) (hnone' q)
  of_error s e s' h := by
    rcases bind_eq_error.mp h with h | ⟨a, s₁, hs₁, h⟩
    · exact hx.of_error s e s' h
    · obtain ⟨asked, hasked, hnone⟩ := hx.of_ok s a s₁ hs₁
      obtain ⟨front, last, hmore, hnone', hlast⟩ := (hf a).of_error s₁ e s' h
      refine ⟨asked ++ front, last, ?_, fun q hq => ?_, hlast⟩
      · rw [hmore, hasked, List.append_assoc, List.append_assoc]
      · exact (List.mem_append.mp hq).elim (hnone q) (hnone' q)

/-- A step over a part of the state that has the record. -/
theorem within {record' : ρ → List γ} {get : ρ → σ} {set : σ → ρ → ρ}
    (hx : Blames record failure? x) (hget : ∀ r, record (get r) = record' r)
    (hset : ∀ s r, record' (set s r) = record s) :
    Blames record' failure? (x.within get set) where
  of_ok r a r' h := by
    obtain ⟨hfst, rfl⟩ := Prod.mk.inj h
    rw [hset, ← hget]
    exact hx.of_ok (get r) a _ (Prod.ext hfst rfl)
  of_error r e r' h := by
    obtain ⟨hfst, rfl⟩ := Prod.mk.inj h
    rw [hset, ← hget]
    exact hx.of_error (get r) e _ (Prod.ext hfst rfl)

end Blames

end RpmProvision.Step
