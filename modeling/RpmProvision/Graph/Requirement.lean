/-
Requirements on packages.

A requirement names a package and may limit its version. Requirements are ordered by name,
condition and version; an absent part comes before every present one.
-/
import RpmProvision.SortedMap

namespace RpmProvision

open Std

/-- A package name with an optional limit on the version. -/
structure Requirement where
  name : String
  condition : Option String
  version : Option String
  deriving DecidableEq

namespace Requirement

/-- How a requirement is shown. A version without a condition stands for equality, a condition
without a version for nothing. -/
def toText (r : Requirement) : String :=
  match r.condition, r.version with
  | some condition, some version => r.name ++ " " ++ condition ++ " " ++ version
  | none, some version => r.name ++ " = " ++ version
  | _, none => r.name

instance : Ord Requirement :=
  ⟨compareLex (compareOn name) (compareLex (compareOn condition) (compareOn version))⟩

instance : TransOrd Requirement :=
  inferInstanceAs <| TransCmp <|
    compareLex (compareOn name) (compareLex (compareOn condition) (compareOn version))

theorem compare_eq (r s : Requirement) :
    compare r s = (compare r.name s.name).then
      ((compare r.condition s.condition).then (compare r.version s.version)) := rfl

instance : LawfulEqOrd Requirement where
  eq_of_compare {r s} h := by
    rw [compare_eq, Ordering.then_eq_eq, Ordering.then_eq_eq] at h
    obtain ⟨hn, hc, hv⟩ := h
    cases r
    cases s
    cases LawfulEqCmp.eq_of_compare hn
    cases LawfulEqCmp.eq_of_compare hc
    cases LawfulEqCmp.eq_of_compare hv
    rfl

end Requirement

end RpmProvision
