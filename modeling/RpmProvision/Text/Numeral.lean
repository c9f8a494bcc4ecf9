/-
Numerals for machine words: digits in some base up to ten, which may follow a plus sign.

* **`numeral?`** — the number that a text writes;
* **`lt_wordBound_of_numeral?`** — such a number fits in a machine word.
-/

namespace RpmProvision.Text

/-- The value of a digit. -/
def digit? (base : Nat) (c : Char) : Option Nat :=
  if c.isDigit ∧ c.toNat - '0'.toNat < base then some (c.toNat - '0'.toNat) else none

/-- The value of some digits. -/
def digits? (base : Nat) (cs : List Char) : Option Nat :=
  cs.foldlM (fun n c => (digit? base c).map (base * n + ·)) 0

/-- The least number that does not fit in a machine word. -/
def wordBound : Nat := 1 <<< 64

/-- The number that a text writes. -/
def numeral? (base : Nat) (cs : List Char) : Option Nat :=
  let digits := if cs.head? = some '+' then cs.tail else cs
  if digits = [] then none else (digits? base digits).filter (· < wordBound)

/-- A numeral writes a number that fits in a machine word. -/
theorem lt_wordBound_of_numeral? {base n : Nat} {cs : List Char} (h : numeral? base cs = some n) :
    n < wordBound := by
  simp only [numeral?, Option.ite_none_left_eq_some, Option.filter_eq_some_iff,
    decide_eq_true_eq] at h
  exact h.2.2

end RpmProvision.Text
