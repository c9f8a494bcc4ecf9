/-
Blank characters, and texts without them at their ends.

A blank is a character with the Unicode property White_Space; ASCII knows six of the twenty-five.

* **`trimEndChars_idem`** — a text trimmed at its end has nothing more to trim there.
-/

namespace RpmProvision.Text

/-- Whether the character has the property White_Space. -/
def isBlank (c : Char) : Bool :=
  let n := c.toNat
  (0x09 ≤ n && n ≤ 0x0d) || n == 0x20 || n == 0x85 || n == 0xa0 || n == 0x1680
    || (0x2000 ≤ n && n ≤ 0x200a) || n == 0x2028 || n == 0x2029 || n == 0x202f || n == 0x205f
    || n == 0x3000

/-- Every blank of ASCII is one. -/
theorem isBlank_of_isWhitespace {c : Char} (h : c.isWhitespace) : isBlank c := by
  simp only [Char.isWhitespace, Bool.or_eq_true, decide_eq_true_eq] at h
  rcases h with ((rfl | rfl) | rfl) | rfl <;> decide

/-- Drop the blanks at the end. -/
def trimEndChars : List Char → List Char
  | [] => []
  | c :: cs =>
    match trimEndChars cs with
    | [] => if isBlank c then [] else [c]
    | d :: ds => c :: d :: ds

/-- Drop the blanks at both ends. -/
def trimChars (cs : List Char) : List Char := trimEndChars (cs.dropWhile isBlank)

/-- The text without the blanks at its ends. -/
def trim (s : String) : String := String.ofList (trimChars s.toList)

/-- Whether nothing but blanks is in the text. -/
def isAllBlank (s : String) : Bool := s.toList.all isBlank

/-! ### What trimming leaves -/

theorem trimEndChars_eq_self {cs : List Char} (h : ∀ c ∈ cs.getLast?, isBlank c = false) :
    trimEndChars cs = cs := by
  induction cs with
  | nil => rfl
  | cons c cs ih =>
    cases cs with
    | nil => simp_all [trimEndChars]
    | cons d ds => rw [trimEndChars, ih (by simpa using h)]

theorem not_isBlank_of_mem_getLast?_trimEndChars {cs : List Char} :
    ∀ c ∈ (trimEndChars cs).getLast?, isBlank c = false := by
  induction cs with
  | nil => simp [trimEndChars]
  | cons c cs ih =>
    rw [trimEndChars]
    split
    · by_cases hc : isBlank c <;> simp [hc]
    · next d ds e => rw [e] at ih; simpa using ih

/-- A text trimmed at its end has nothing more to trim there. -/
theorem trimEndChars_idem (cs : List Char) : trimEndChars (trimEndChars cs) = trimEndChars cs :=
  trimEndChars_eq_self not_isBlank_of_mem_getLast?_trimEndChars

end RpmProvision.Text
