/-
Patterns for the beginning of a text.

A pattern is fitted by trying. A run takes as many characters as it can, and gives them back one by one
as long as the rest of the pattern does not fit behind it. The ways in which a pattern fits are listed
here in the order in which they are tried, and the first one counts. Which ways there are can be said
without that order.

* **`ways`** — the ways in which a pattern fits the beginning of a text, in their order;
* **`Fits`** — the texts that a pattern fits as a whole, with what its groups capture in them;
* **`mem_ways_iff`** — the ways are the beginnings of the text that the pattern fits;
* **`captured?_eq_some_iff`** — if all ways capture the same, their order does not matter.
-/

namespace RpmProvision.Text

/-- A pattern: one character of a class, a run of characters of a class, a group that captures what it
fits, or one pattern behind another. -/
inductive Pattern
  | one (ok : Char → Bool)
  | run (ok : Char → Bool)
  | group (p : Pattern)
  | seq (p q : Pattern)

namespace Pattern

/-- One pattern behind another. -/
instance : Append Pattern := ⟨seq⟩

/-- One certain character. -/
def char (c : Char) : Pattern := one (· = c)

/-- A way in which a pattern fits the beginning of a text: what it takes of the text, what each of its
groups captures, and the rest. -/
structure Way where
  taken : List Char
  groups : List (List Char)
  rest : List Char

namespace Way

/-- A character is taken before all others. -/
def cons (c : Char) (w : Way) : Way := { w with taken := c :: w.taken }

/-- All that is taken is captured. -/
def capture (w : Way) : Way := { w with groups := w.taken :: w.groups }

/-- The rest is taken further. -/
def append (w v : Way) : Way := ⟨w.taken ++ v.taken, w.groups ++ v.groups, v.rest⟩

end Way

/-- The ways to take a run of characters, the longest one first. -/
def runWays (ok : Char → Bool) : List Char → List Way
  | [] => []
  | c :: cs => if ok c then (runWays ok cs).map (.cons c) ++ [⟨[c], [], cs⟩] else []

/-- The ways in which a pattern fits the beginning of a text, as they are tried. -/
def ways : Pattern → List Char → List Way
  | one _, [] => []
  | one ok, c :: cs => if ok c then [⟨[c], [], cs⟩] else []
  | run ok, cs => runWays ok cs
  | group p, cs => (p.ways cs).map Way.capture
  | seq p q, cs => (p.ways cs).flatMap fun w => (q.ways w.rest).map w.append

/-- What the first group captures in the first way. -/
def captured? (p : Pattern) (cs : List Char) : Option (List Char) :=
  (p.ways cs).head?.bind fun w => w.groups.head?

/-! ### What a pattern fits -/

/-- The pattern fits the whole text, and its groups capture some parts of it. -/
inductive Fits : Pattern → List Char → List (List Char) → Prop
  | one {ok : Char → Bool} {c : Char} (hc : ok c) : Fits (one ok) [c] []
  | run {ok : Char → Bool} {cs : List Char} (hne : cs ≠ []) (hall : ∀ c ∈ cs, ok c) :
    Fits (run ok) cs []
  | group {p : Pattern} {cs : List Char} {groups : List (List Char)} (h : Fits p cs groups) :
    Fits (group p) cs (cs :: groups)
  | seq {p q : Pattern} {cs ds : List Char} {groups more : List (List Char)}
    (hp : Fits p cs groups) (hq : Fits q ds more) : Fits (seq p q) (cs ++ ds) (groups ++ more)

variable {p q : Pattern} {ok : Char → Bool} {cs : List Char} {groups : List (List Char)}

theorem fits_one_iff : (one ok).Fits cs groups ↔ ∃ c, ok c ∧ cs = [c] ∧ groups = [] := by
  constructor
  · rintro (⟨hc⟩ | _)
    exact ⟨_, hc, rfl, rfl⟩
  · rintro ⟨c, hc, rfl, rfl⟩
    exact .one hc

theorem fits_run_iff : (run ok).Fits cs groups ↔ cs ≠ [] ∧ (∀ c ∈ cs, ok c) ∧ groups = [] := by
  constructor
  · rintro (_ | ⟨hne, hall⟩)
    exact ⟨hne, hall, rfl⟩
  · rintro ⟨hne, hall, rfl⟩
    exact .run hne hall

theorem fits_group_iff : (group p).Fits cs groups ↔ ∃ inner, p.Fits cs inner ∧ groups = cs :: inner := by
  constructor
  · rintro (_ | _ | ⟨h⟩)
    exact ⟨_, h, rfl⟩
  · rintro ⟨inner, h, rfl⟩
    exact .group h

theorem fits_append_iff : (p ++ q).Fits cs groups ↔ ∃ front back inFront inBack,
    p.Fits front inFront ∧ q.Fits back inBack ∧ cs = front ++ back ∧ groups = inFront ++ inBack := by
  constructor
  · rintro (_ | _ | _ | ⟨hp, hq⟩)
    exact ⟨_, _, _, _, hp, hq, rfl, rfl⟩
  · rintro ⟨front, back, inFront, inBack, hp, hq, rfl, rfl⟩
    exact .seq hp hq

theorem fits_one_append_iff : (one ok ++ q).Fits cs groups ↔
    ∃ c rest, ok c ∧ q.Fits rest groups ∧ cs = c :: rest := by
  rw [fits_append_iff]
  constructor
  · rintro ⟨front, rest, inFront, inRest, hone, hrest, rfl, rfl⟩
    obtain ⟨c, hc, rfl, rfl⟩ := fits_one_iff.mp hone
    exact ⟨c, rest, hc, hrest, rfl⟩
  · rintro ⟨c, rest, hc, hrest, rfl⟩
    exact ⟨[c], rest, [], groups, .one hc, hrest, rfl, rfl⟩

theorem fits_char_append_iff {c : Char} : (char c ++ q).Fits cs groups ↔
    ∃ rest, q.Fits rest groups ∧ cs = c :: rest := by
  rw [char, fits_one_append_iff]
  constructor
  · rintro ⟨d, rest, hd, hrest, rfl⟩
    rw [of_decide_eq_true hd]
    exact ⟨rest, hrest, rfl⟩
  · rintro ⟨rest, hrest, rfl⟩
    exact ⟨c, rest, decide_eq_true rfl, hrest, rfl⟩

theorem fits_run_append_iff : (run ok ++ q).Fits cs groups ↔
    ∃ front rest, front ≠ [] ∧ (∀ c ∈ front, ok c) ∧ q.Fits rest groups ∧ cs = front ++ rest := by
  rw [fits_append_iff]
  constructor
  · rintro ⟨front, rest, inFront, inRest, hrun, hrest, rfl, rfl⟩
    obtain ⟨hne, hall, rfl⟩ := fits_run_iff.mp hrun
    exact ⟨front, rest, hne, hall, hrest, rfl⟩
  · rintro ⟨front, rest, hne, hall, hrest, rfl⟩
    exact ⟨front, rest, [], groups, .run hne hall, hrest, rfl, rfl⟩

theorem fits_group_append_iff : (group p ++ q).Fits cs groups ↔
    ∃ front rest inner more, p.Fits front inner ∧ q.Fits rest more ∧ cs = front ++ rest
      ∧ groups = front :: (inner ++ more) := by
  rw [fits_append_iff]
  constructor
  · rintro ⟨front, rest, inFront, more, hgroup, hrest, rfl, rfl⟩
    obtain ⟨inner, hp, rfl⟩ := fits_group_iff.mp hgroup
    exact ⟨front, rest, inner, more, hp, hrest, rfl, rfl⟩
  · rintro ⟨front, rest, inner, more, hp, hrest, rfl, rfl⟩
    exact ⟨front, rest, front :: inner, more, .group hp, hrest, rfl, rfl⟩

/-! ### The ways are what a pattern fits -/

theorem mem_runWays_iff {w : Way} : w ∈ runWays ok cs ↔
    cs = w.taken ++ w.rest ∧ (run ok).Fits w.taken w.groups := by
  rw [fits_run_iff]
  obtain ⟨taken, groups, rest⟩ := w
  induction cs generalizing taken with
  | nil =>
    simp only [runWays, List.not_mem_nil, false_iff]
    rintro ⟨hnil, hne, -⟩
    exact hne (List.append_eq_nil_iff.mp hnil.symm).1
  | cons c cs ih =>
    rw [runWays]
    by_cases hc : ok c
    · rw [if_pos hc, List.mem_append, List.mem_map, List.mem_singleton]
      constructor
      · rintro (⟨⟨ds, _, _⟩, hv, hcons⟩ | hone)
        · cases hcons
          obtain ⟨hcs, -, hall, hgroups⟩ := (ih ds).mp hv
          exact ⟨congrArg (c :: ·) hcs, by simp, List.forall_mem_cons.mpr ⟨hc, hall⟩, hgroups⟩
        · cases hone
          exact ⟨rfl, by simp, by simpa using hc, rfl⟩
      · rintro ⟨hcs, hne, hall, hgroups⟩
        match taken with
        | [] => exact absurd rfl hne
        | [_] =>
          cases hcs
          cases hgroups
          exact .inr rfl
        | _ :: d :: ds =>
          obtain ⟨rfl, hcs⟩ := List.cons.inj hcs
          have hmore : ∀ e ∈ d :: ds, ok e := (List.forall_mem_cons.mp hall).2
          exact .inl ⟨⟨d :: ds, groups, rest⟩, (ih _).mpr ⟨hcs, by simp, hmore, hgroups⟩, rfl⟩
    · rw [if_neg hc]
      simp only [List.not_mem_nil, false_iff]
      rintro ⟨hcs, hne, hall, -⟩
      match taken with
      | [] => exact hne rfl
      | d :: ds => exact hc ((List.cons.inj hcs).1 ▸ hall d List.mem_cons_self)

/-- The ways in which a pattern fits the beginning of a text are the beginnings that it fits. -/
theorem mem_ways_iff {w : Way} :
    w ∈ p.ways cs ↔ cs = w.taken ++ w.rest ∧ p.Fits w.taken w.groups := by
  induction p generalizing cs w with
  | one ok =>
    obtain ⟨taken, groups, rest⟩ := w
    cases cs with
    | nil =>
      simp only [ways, List.not_mem_nil, fits_one_iff, false_iff]
      rintro ⟨hnil, c, -, rfl, -⟩
      cases hnil
    | cons c cs =>
      simp only [ways, fits_one_iff, List.mem_ite_nil_right, List.mem_singleton]
      constructor
      · rintro ⟨hc, hw⟩
        cases hw
        exact ⟨rfl, c, hc, rfl, rfl⟩
      · rintro ⟨hcs, d, hd, rfl, rfl⟩
        cases hcs
        exact ⟨hd, rfl⟩
  | run ok => exact mem_runWays_iff
  | group p ih =>
    simp only [ways, List.mem_map, fits_group_iff]
    constructor
    · rintro ⟨v, hv, rfl⟩
      obtain ⟨hcs, h⟩ := ih.mp hv
      exact ⟨hcs, _, h, rfl⟩
    · rintro ⟨hcs, inner, h, hgroups⟩
      exact ⟨⟨w.taken, inner, w.rest⟩, ih.mpr ⟨hcs, h⟩, by rw [Way.capture, ← hgroups]⟩
  | seq p q ihp ihq =>
    simp only [ways, List.mem_flatMap, List.mem_map]
    constructor
    · rintro ⟨v, hv, u, hu, rfl⟩
      obtain ⟨hcs, hp⟩ := ihp.mp hv
      obtain ⟨hrest, hq⟩ := ihq.mp hu
      refine ⟨?_, .seq hp hq⟩
      rw [hcs, hrest, Way.append, List.append_assoc]
    · obtain ⟨taken, groups, rest⟩ := w
      rintro ⟨hcs, h⟩
      obtain ⟨front, back, inFront, inBack, hp, hq, rfl, rfl⟩ := fits_append_iff.mp h
      rw [List.append_assoc] at hcs
      exact ⟨⟨front, inFront, back ++ rest⟩, ihp.mpr ⟨hcs, hp⟩, ⟨back, inBack, rest⟩,
        ihq.mpr ⟨rfl, hq⟩, rfl⟩

/-- If all ways capture the same, it does not matter which one comes first. -/
theorem captured?_eq_some_iff {word : List Char}
    (h : ∀ w ∈ p.ways cs, ∀ v ∈ p.ways cs, w.groups.head? = v.groups.head?) :
    p.captured? cs = some word ↔ ∃ w ∈ p.ways cs, w.groups.head? = some word := by
  rw [captured?]
  constructor
  · intro hfirst
    obtain ⟨w, hw, hword⟩ := Option.bind_eq_some_iff.mp hfirst
    exact ⟨w, List.mem_of_head? hw, hword⟩
  · rintro ⟨w, hw, hword⟩
    cases hways : p.ways cs with
    | nil =>
      rw [hways] at hw
      cases hw
    | cons v vs =>
      have hv : v ∈ p.ways cs := hways ▸ List.mem_cons_self
      rw [List.head?_cons, Option.bind_some, h v hv w hw, hword]

end Pattern

end RpmProvision.Text
