/-
The packages that a run has got so far.

Many nodes may need the same package. The cache remembers each package that was got, and whether it
was there before, so that no package is got twice in a run.
-/
import RpmProvision.SortedMap

namespace RpmProvision.Resolution

/-- For each package that was got, whether it was there before. -/
structure Cache where
  flags : SortedMap String Bool
  deriving DecidableEq

namespace Cache

/-- The cache of a run that has got nothing yet. -/
def empty : Cache := ⟨∅⟩

/-- Whether the package was got. -/
def isFetched (c : Cache) (package : String) : Bool := c.flags.contains package

/-- Whether the package was got and was there before. -/
def isPrebuilt (c : Cache) (package : String) : Bool := (c.flags.find? package).getD false

/-- Remember a package that was got. -/
def record (c : Cache) (package : String) (prebuilt : Bool) : Cache :=
  ⟨c.flags.insert package prebuilt⟩

/-- The number of packages. -/
def size (c : Cache) : Nat := c.flags.size

/-! ### What is remembered -/

@[simp] theorem isFetched_empty (package : String) : empty.isFetched package = false := rfl

theorem isFetched_record (c : Cache) (package p : String) (prebuilt : Bool) :
    (c.record package prebuilt).isFetched p = (decide (p = package) || c.isFetched p) := by
  rw [isFetched, SortedMap.contains, record, SortedMap.find?_insert]
  by_cases h : p = package
  · simp [h]
  · rw [if_neg fun e => h (Std.LawfulEqCmp.eq_of_compare e)]
    simp [h, isFetched, SortedMap.contains]

theorem isPrebuilt_record (c : Cache) (package p : String) (prebuilt : Bool) :
    (c.record package prebuilt).isPrebuilt p
      = if p = package then prebuilt else c.isPrebuilt p := by
  rw [isPrebuilt, record, SortedMap.find?_insert]
  by_cases h : p = package
  · simp [h]
  · rw [if_neg fun e => h (Std.LawfulEqCmp.eq_of_compare e)]
    simp [h, isPrebuilt]

end Cache

end RpmProvision.Resolution
