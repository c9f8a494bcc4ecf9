/-
Lists whose repetitions are dropped.

Every element is kept where it first stands, so the elements that are kept stand in the order in which
they first do in the list.

* **`pairwise_eraseDups`** — each element that is kept first stands before the later ones do;
* **`nodup_eraseDups`** — none is kept twice;
* **`StandsBefore.of_filterMap`** — the same for what is read off the elements of a list.
-/
import Mathlib.Data.List.Induction

namespace RpmProvision

variable {α β : Type}

/-- The first element stands somewhere in the list, and up to there the second one does not. -/
def StandsBefore (l : List α) (a b : α) : Prop :=
  ∃ front back, l = front ++ a :: back ∧ b ∉ front ∧ b ≠ a

theorem standsBefore_of_mem {l : List α} {a b : α} (ha : a ∈ l) (hb : b ∉ l) :
    StandsBefore l a b := by
  obtain ⟨front, back, rfl⟩ := List.append_of_mem ha
  rw [List.mem_append, List.mem_cons, not_or, not_or] at hb
  exact ⟨front, back, rfl, hb.1, hb.2.1⟩

theorem StandsBefore.append {l : List α} {a b : α} (h : StandsBefore l a b) (more : List α) :
    StandsBefore (l ++ more) a b := by
  obtain ⟨front, back, rfl, hfront, hne⟩ := h
  exact ⟨front, back ++ more, by simp, hfront, hne⟩

/-- An element at the end is kept if it does not stand before. -/
theorem eraseDups_concat [BEq α] [LawfulBEq α] (l : List α) (a : α) :
    (a ∈ l ∧ (l ++ [a]).eraseDups = l.eraseDups)
      ∨ a ∉ l ∧ (l ++ [a]).eraseDups = l.eraseDups ++ [a] := by
  by_cases ha : a ∈ l
  · exact .inl ⟨ha, by simp [List.eraseDups_append, List.removeAll, ha]⟩
  · exact .inr ⟨ha, by simp [List.eraseDups_append, List.removeAll, List.eraseDups_cons, ha]⟩

/-- Each element that is kept stands in the list before the later ones do. -/
theorem pairwise_eraseDups [BEq α] [LawfulBEq α] (l : List α) :
    l.eraseDups.Pairwise (StandsBefore l) := by
  induction l using List.reverseRecOn with
  | nil => exact .nil
  | append_singleton l a ih =>
    have hl : l.eraseDups.Pairwise (StandsBefore (l ++ [a])) := ih.imp fun h => h.append [a]
    rcases eraseDups_concat l a with ⟨-, h⟩ | ⟨ha, h⟩
    · rw [h]
      exact hl
    · rw [h, List.pairwise_append]
      refine ⟨hl, List.pairwise_singleton .., fun b hb c hc => ?_⟩
      rw [List.mem_singleton.mp hc]
      exact (standsBefore_of_mem (List.mem_eraseDups.mp hb) ha).append [a]

theorem nodup_eraseDups [BEq α] [LawfulBEq α] (l : List α) : l.eraseDups.Nodup :=
  (pairwise_eraseDups l).imp fun ⟨_, _, _, _, hne⟩ => hne.symm

/-- What is read off some element is read off it before the other thing is read off any. -/
theorem StandsBefore.of_filterMap {f : α → Option β} {l : List α} {a b : β}
    (h : StandsBefore (l.filterMap f) a b) :
    ∃ front x back, l = front ++ x :: back ∧ f x = some a ∧ ∀ y ∈ front ++ [x], f y ≠ some b := by
  obtain ⟨before, after, hsplit, hbefore, hne⟩ := h
  obtain ⟨l₁, l₂, rfl, rfl, hrest⟩ := List.filterMap_eq_append_iff.mp hsplit
  obtain ⟨l₃, x, back, rfl, hnone, hx, -⟩ := List.filterMap_eq_cons_iff.mp hrest
  refine ⟨l₁ ++ l₃, x, back, by simp, hx, fun y hy hb => ?_⟩
  rw [List.mem_append, List.mem_append, List.mem_singleton] at hy
  rcases hy with (hy | hy) | rfl
  · exact hbefore (List.mem_filterMap.mpr ⟨y, hy, hb⟩)
  · rw [hnone y hy] at hb
    cases hb
  · rw [hx] at hb
    exact hne (Option.some.inj hb).symm

end RpmProvision
