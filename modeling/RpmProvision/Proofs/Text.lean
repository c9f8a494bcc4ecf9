/-
Texts without the blanks at their ends, and texts cut at a separator.

To trim a text is to find what stands between the blanks at its ends. A text that is cut at its line
feeds may have carriage returns at the ends of its pieces. For whoever drops the blanks at the end of
each line it makes no difference which of them belong to the end of the line.

* **`trimChars_eq_iff`**, **`trimEndChars_eq_iff`** — what is left of a text when it is trimmed;
* **`splitAtEach_append`**, **`splitAtEach_joinWith`** — a text is cut at a separator as its parts are;
* **`filterMap_lines`** — what is read off the lines of a text is read off its pieces.
-/
import Mathlib.Data.List.TakeWhile
import RpmProvision.Text.Blank
import RpmProvision.Text.Lines

namespace RpmProvision.Text

/-! ### Blanks at the ends -/

/-- What stands between the blanks at the ends of a text. -/
structure TrimsTo (cs core : List Char) : Prop where
  between : ∃ before after, cs = before ++ core ++ after
    ∧ (∀ c ∈ before, isBlank c) ∧ ∀ c ∈ after, isBlank c
  head : ∀ c ∈ core.head?, isBlank c = false
  last : ∀ c ∈ core.getLast?, isBlank c = false

theorem trimEndChars_append (cs ds : List Char) :
    trimEndChars (cs ++ ds)
      = if trimEndChars ds = [] then trimEndChars cs else cs ++ trimEndChars ds := by
  induction cs with
  | nil =>
    by_cases h : trimEndChars ds = []
    · simp [h, trimEndChars]
    · simp [h]
  | cons c cs ih =>
    rw [List.cons_append, trimEndChars, ih]
    by_cases h : trimEndChars ds = []
    · rw [if_pos h, if_pos h, trimEndChars]
    · obtain ⟨d, rest, hne⟩ : ∃ d rest, cs ++ trimEndChars ds = d :: rest :=
        List.exists_cons_of_ne_nil (by simp [h])
      rw [if_neg h, if_neg h, List.cons_append, hne]

theorem trimEndChars_eq_nil {cs : List Char} (h : ∀ c ∈ cs, isBlank c) : trimEndChars cs = [] := by
  induction cs with
  | nil => rfl
  | cons c cs ih =>
    rw [trimEndChars, ih fun d hd => h d (List.mem_cons_of_mem c hd)]
    simp [h c List.mem_cons_self]

/-- Only blanks are dropped at the end. -/
theorem exists_trimEndChars_append (cs : List Char) :
    ∃ after, cs = trimEndChars cs ++ after ∧ ∀ c ∈ after, isBlank c := by
  induction cs with
  | nil => exact ⟨[], rfl, by simp⟩
  | cons c cs ih =>
    obtain ⟨after, hcs, hafter⟩ := ih
    cases htrim : trimEndChars cs with
    | nil =>
      rw [htrim, List.nil_append] at hcs
      cases hc : isBlank c with
      | true =>
        refine ⟨c :: cs, by simp [trimEndChars, htrim, hc], ?_⟩
        intro d hd
        rcases List.mem_cons.mp hd with rfl | hd
        · exact hc
        · exact hafter d (hcs ▸ hd)
      | false =>
        refine ⟨after, ?_, hafter⟩
        rw [trimEndChars, htrim, hcs]
        simp [hc]
    | cons d ds =>
      refine ⟨after, ?_, hafter⟩
      rw [trimEndChars, htrim, List.cons_append, ← htrim, ← hcs]

theorem trimEndChars_append_blanks (cs : List Char) {after : List Char}
    (h : ∀ c ∈ after, isBlank c) : trimEndChars (cs ++ after) = trimEndChars cs := by
  rw [trimEndChars_append, if_pos (trimEndChars_eq_nil h)]

theorem trimChars_append_blanks (cs : List Char) {after : List Char}
    (h : ∀ c ∈ after, isBlank c) : trimChars (cs ++ after) = trimChars cs := by
  rw [trimChars, trimChars, List.dropWhile_append]
  by_cases hcs : (cs.dropWhile isBlank).isEmpty = true
  · rw [if_pos hcs, List.isEmpty_iff.mp hcs]
    have hafter : after.dropWhile isBlank = [] := List.dropWhile_eq_nil_iff.mpr h
    rw [hafter]
  · rw [if_neg hcs, trimEndChars_append_blanks _ h]

/-- What stands before the blanks at the end of a text. -/
structure TrimsEndTo (cs core : List Char) : Prop where
  before : ∃ after, cs = core ++ after ∧ ∀ c ∈ after, isBlank c
  last : ∀ c ∈ core.getLast?, isBlank c = false

/-- What is left of a text when it is trimmed at its end stands before the blanks there. -/
theorem trimEndChars_eq_iff {cs core : List Char} :
    trimEndChars cs = core ↔ TrimsEndTo cs core := by
  constructor
  · rintro rfl
    exact ⟨exists_trimEndChars_append cs, not_isBlank_of_mem_getLast?_trimEndChars⟩
  · rintro ⟨⟨after, rfl, hafter⟩, hlast⟩
    rw [trimEndChars_append_blanks _ hafter, trimEndChars_eq_self hlast]

/-- What is left of a text when it is trimmed stands between the blanks at its ends. -/
theorem trimChars_eq_iff {cs core : List Char} : trimChars cs = core ↔ TrimsTo cs core := by
  constructor
  · rintro rfl
    obtain ⟨after, hrest, hafter⟩ := exists_trimEndChars_append (cs.dropWhile isBlank)
    refine ⟨⟨cs.takeWhile isBlank, after, ?_, ?_, hafter⟩, ?_,
      not_isBlank_of_mem_getLast?_trimEndChars⟩
    · rw [List.append_assoc, trimChars, ← hrest, List.takeWhile_append_dropWhile]
    · intro c hc
      exact List.mem_takeWhile_imp hc
    · intro c hc
      -- the first character that is left is the first that is not dropped at the beginning
      obtain ⟨more, hmore⟩ : ∃ more, trimChars cs = c :: more := List.head?_eq_some_iff.mp hc
      rw [trimChars] at hmore
      rw [hmore] at hrest
      have hhead := List.head?_dropWhile_not isBlank cs
      rw [hrest] at hhead
      exact hhead
  · rintro ⟨⟨before, after, rfl, hbefore, hafter⟩, hhead, hlast⟩
    rw [trimChars_append_blanks _ hafter, trimChars, List.dropWhile_append_of_pos hbefore]
    have hcore : core.dropWhile isBlank = core := by
      cases core with
      | nil => rfl
      | cons c more => simp [hhead c rfl]
    rw [hcore, trimEndChars_eq_self hlast]

/-! ### Words -/

theorem takeWhile_word {cs : List Char} (h : ∀ c ∈ cs, isBlank c = false) (more : List Char) :
    (cs ++ more).takeWhile (!isBlank ·) = cs ++ more.takeWhile (!isBlank ·) :=
  List.takeWhile_append_of_pos fun c hc => by simp [h c hc]

theorem dropWhile_word {cs : List Char} (h : ∀ c ∈ cs, isBlank c = false) (more : List Char) :
    (cs ++ more).dropWhile (!isBlank ·) = more.dropWhile (!isBlank ·) :=
  List.dropWhile_append_of_pos fun c hc => by simp [h c hc]

/-! ### Pieces -/

/-- A text is cut at a separator as its two sides are. -/
theorem splitAtEach_append (sep : Char) (before after : List Char) :
    splitAtEach sep (before ++ sep :: after) = splitAtEach sep before ++ splitAtEach sep after := by
  induction before with
  | nil => simp [splitAtEach]
  | cons c cs ih =>
    rw [List.cons_append, splitAtEach, splitAtEach, ih]
    by_cases hc : c = sep
    · rw [if_pos hc, if_pos hc, List.cons_append]
    · rw [if_neg hc, if_neg hc]
      obtain ⟨piece, pieces, hsplit⟩ := List.exists_cons_of_ne_nil (splitAtEach_ne_nil sep cs)
      rw [hsplit]
      rfl

theorem splitAtEach_of_not_mem {sep : Char} {cs : List Char} (h : sep ∉ cs) :
    splitAtEach sep cs = [cs] := by
  induction cs with
  | nil => rfl
  | cons c cs ih =>
    rw [List.mem_cons, not_or] at h
    rw [splitAtEach, if_neg fun hc => h.1 hc.symm, ih h.2]

theorem not_mem_of_mem_splitAtEach {sep : Char} {cs piece : List Char}
    (h : piece ∈ splitAtEach sep cs) : sep ∉ piece := by
  induction cs generalizing piece with
  | nil =>
    rw [splitAtEach, List.mem_singleton] at h
    rw [h]
    exact List.not_mem_nil
  | cons c cs ih =>
    obtain ⟨first, rest, hsplit⟩ := List.exists_cons_of_ne_nil (splitAtEach_ne_nil sep cs)
    rw [splitAtEach, hsplit] at h
    by_cases hc : c = sep
    · rw [if_pos hc, List.mem_cons] at h
      rcases h with rfl | h
      · exact List.not_mem_nil
      · exact ih (hsplit ▸ h)
    · rw [if_neg hc] at h
      rcases List.mem_cons.mp h with rfl | h
      · have hfirst : sep ∉ first := ih (hsplit ▸ List.mem_cons_self)
        rw [List.mem_cons, not_or]
        exact ⟨fun heq => hc heq.symm, hfirst⟩
      · exact ih (hsplit ▸ List.mem_cons_of_mem first h)

theorem exists_mem_splitAtEach {sep c : Char} (hc : c ≠ sep) {cs : List Char} (h : c ∈ cs) :
    ∃ piece ∈ splitAtEach sep cs, c ∈ piece := by
  induction cs with
  | nil => cases h
  | cons d cs ih =>
    obtain ⟨first, rest, hsplit⟩ := List.exists_cons_of_ne_nil (splitAtEach_ne_nil sep cs)
    rw [splitAtEach]
    by_cases hd : d = sep
    · rw [if_pos hd]
      have hcs : c ∈ cs := (List.mem_cons.mp h).resolve_left fun heq => hc (heq.trans hd)
      obtain ⟨piece, hmem, hin⟩ := ih hcs
      exact ⟨piece, List.mem_cons_of_mem _ hmem, hin⟩
    · rw [if_neg hd, hsplit]
      rcases List.mem_cons.mp h with rfl | hcs
      · exact ⟨c :: first, List.mem_cons_self, List.mem_cons_self⟩
      · obtain ⟨piece, hmem, hin⟩ := ih hcs
        rw [hsplit] at hmem
        rcases List.mem_cons.mp hmem with rfl | hmem
        · exact ⟨d :: piece, List.mem_cons_self, List.mem_cons_of_mem d hin⟩
        · exact ⟨piece, List.mem_cons_of_mem _ hmem, hin⟩

theorem head?_of_splitAtEach {sep : Char} {cs piece : List Char} {pieces : List (List Char)}
    (h : splitAtEach sep cs = [] :: piece :: pieces) : cs.head? = some sep := by
  match cs with
  | [] => cases h
  | c :: cs =>
    rw [splitAtEach] at h
    by_cases hc : c = sep
    · rw [hc]
      rfl
    · obtain ⟨first, rest, hsplit⟩ := List.exists_cons_of_ne_nil (splitAtEach_ne_nil sep cs)
      rw [if_neg hc, hsplit] at h
      cases h

/-- A text is cut at the first separator. -/
theorem splitAtFirst?_eq_some_iff {sep : Char} {cs before after : List Char} :
    splitAtFirst? sep cs = some (before, after) ↔ cs = before ++ sep :: after ∧ sep ∉ before := by
  induction cs generalizing before with
  | nil => simp [splitAtFirst?]
  | cons c cs ih =>
    rw [splitAtFirst?]
    by_cases hc : c = sep
    · rw [if_pos hc, hc]
      cases before with
      | nil => simp [eq_comm]
      | cons b bs =>
        simp only [Option.some.injEq, Prod.mk.injEq, List.mem_cons, List.cons_append, List.cons.injEq]
        constructor
        · rintro ⟨h, -⟩
          cases h
        · rintro ⟨⟨rfl, -⟩, hmem⟩
          exact absurd (.inl rfl) hmem
    · rw [if_neg hc, Option.map_eq_some_iff]
      constructor
      · rintro ⟨⟨b, a⟩, hsplit, heq⟩
        cases heq
        obtain ⟨rfl, hmem⟩ := ih.mp hsplit
        exact ⟨rfl, fun h => (List.mem_cons.mp h).elim (fun h => hc h.symm) hmem⟩
      · rintro ⟨heq, hmem⟩
        cases before with
        | nil => exact absurd (List.cons.inj heq).1 hc
        | cons b bs =>
          obtain ⟨rfl, rfl⟩ := List.cons.inj heq
          exact ⟨(bs, after), ih.mpr ⟨rfl, fun h => hmem (List.mem_cons_of_mem c h)⟩, rfl⟩

/-- Pieces without the separator are what their join is cut into. -/
theorem splitAtEach_joinWith {sep : Char} {pieces : List (List Char)} (hne : pieces ≠ [])
    (h : ∀ piece ∈ pieces, sep ∉ piece) : splitAtEach sep (joinWith sep pieces) = pieces := by
  induction pieces with
  | nil => exact absurd rfl hne
  | cons piece rest ih =>
    have hpiece := splitAtEach_of_not_mem (h piece List.mem_cons_self)
    cases rest with
    | nil => exact hpiece
    | cons next more =>
      have hrest : ∀ p ∈ next :: more, sep ∉ p := fun p hp => h p (List.mem_cons_of_mem piece hp)
      show splitAtEach sep (piece ++ sep :: joinWith sep (next :: more)) = _
      rw [splitAtEach_append, hpiece, ih (List.cons_ne_nil next more) hrest]
      rfl

/-- What is added to a text without the separator is added to its last piece. -/
theorem exists_splitAtEach_append {sep : Char} {ds : List Char} (h : sep ∉ ds) (cs : List Char) :
    ∃ front last, splitAtEach sep (cs ++ ds) = front ++ [last ++ ds] := by
  induction cs with
  | nil => exact ⟨[], [], splitAtEach_of_not_mem h⟩
  | cons c cs ih =>
    obtain ⟨front, last, hsplit⟩ := ih
    rw [List.cons_append, splitAtEach, hsplit]
    by_cases hc : c = sep
    · rw [if_pos hc]
      exact ⟨[] :: front, last, rfl⟩
    · rw [if_neg hc]
      cases front with
      | nil => exact ⟨[], c :: last, rfl⟩
      | cons first more => exact ⟨(c :: first) :: more, last, rfl⟩

/-! ### Lines -/

theorem dropReturn_cases (cs : List Char) :
    dropReturn cs = cs ∨ cs = dropReturn cs ++ ['\r'] := by
  rw [dropReturn]
  by_cases h : cs.getLast? = some '\r'
  · obtain ⟨front, rfl⟩ := List.getLast?_eq_some_iff.mp h
    simp
  · rw [if_neg h]
    exact .inl rfl

theorem trimEndChars_dropReturn (cs : List Char) :
    trimEndChars (dropReturn cs) = trimEndChars cs := by
  rcases dropReturn_cases cs with h | h
  · rw [h]
  · have hreturn : ∀ c ∈ ['\r'], isBlank c := List.forall_mem_singleton.mpr rfl
    calc trimEndChars (dropReturn cs)
        = trimEndChars (dropReturn cs ++ ['\r']) := (trimEndChars_append_blanks _ hreturn).symm
      _ = trimEndChars cs := by rw [← h]

theorem trimChars_dropReturn (cs : List Char) : trimChars (dropReturn cs) = trimChars cs := by
  rcases dropReturn_cases cs with h | h
  · rw [h]
  · have hreturn : ∀ c ∈ ['\r'], isBlank c := List.forall_mem_singleton.mpr rfl
    calc trimChars (dropReturn cs)
        = trimChars (dropReturn cs ++ ['\r']) := (trimChars_append_blanks _ hreturn).symm
      _ = trimChars cs := by rw [← h]

/-- What is read off the lines of a text is read off its pieces between line feeds, if a carriage
return at the end makes no difference and nothing is read off an empty line. -/
theorem filterMap_lines {β : Type} {f : List Char → Option β}
    (hreturn : ∀ cs, f (dropReturn cs) = f cs) (hnil : f [] = none) (cs : List Char) :
    (lines cs).filterMap f = (splitAtEach '\n' cs).filterMap f := by
  rw [lines]
  fun_induction linesOfPieces (splitAtEach '\n' cs) with
  | case1 => rfl
  | case2 => simp [hnil]
  | case3 last hlast => rfl
  | case4 piece pieces hne ih => rw [List.filterMap_cons, List.filterMap_cons, hreturn, ih]

end RpmProvision.Text
