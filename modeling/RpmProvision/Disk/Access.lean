/-
What the owner of a file or directory may do with it.

The program runs as the owner of what it makes, so of a mode only the three bits of the owner count.
-/

namespace RpmProvision

/-- What the owner may do: read a file or list a directory, write a file or change what stands in a
directory, and follow names inside a directory. -/
structure Access where
  read : Bool
  write : Bool
  search : Bool
  deriving DecidableEq

namespace Access

/-- Everything is allowed. -/
def full : Access := ⟨true, true, true⟩

/-- What the bits of a mode allow. -/
def ofMode (mode : Nat) : Access := ⟨mode.testBit 8, mode.testBit 7, mode.testBit 6⟩

example : ofMode 0o755 = full ∧ ofMode 0o644 = ⟨true, true, false⟩ := by decide

end Access

end RpmProvision
