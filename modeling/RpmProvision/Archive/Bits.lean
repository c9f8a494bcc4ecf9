/-
Bits of a run of octets, the lowest bit of each octet first.
-/
import RpmProvision.Step
import RpmProvision.Text.Utf8

namespace RpmProvision.Archive

/-- Why compressed data could not be read to its end. -/
inductive DataFault where
  | truncated
  | damaged
  deriving DecidableEq

/-- Octets still to be read, and how many bits of the first one have been read. -/
structure BitSource where
  bytes : Bytes
  used : Nat

namespace BitSource

/-- The bits of some octets. -/
def ofBytes (bytes : Bytes) : BitSource := ⟨bytes, 0⟩

/-- An upper bound on the number of bits left. -/
def bound (s : BitSource) : Nat := 8 * s.bytes.length

/-- The next bit. -/
def bit : Step BitSource DataFault Bool := fun s =>
  match s.bytes with
  | [] => (.error .truncated, s)
  | b :: rest =>
    (.ok (b.toNat.testBit s.used), if s.used < 7 then ⟨b :: rest, s.used + 1⟩ else ⟨rest, 0⟩)

/-- A number of `n` bits, the lowest first. -/
def number : Nat → Step BitSource DataFault Nat
  | 0 => pure 0
  | n + 1 => do
    let low ← bit
    let high ← number n
    pure (low.toNat + 2 * high)

/-- Skip to the next whole octet. -/
def align : Step BitSource DataFault Unit :=
  Step.modify fun s => if s.used = 0 then s else ⟨s.bytes.drop 1, 0⟩

/-- The next `n` octets, or as many as there are. Only for use after `align`. -/
def octets (n : Nat) : Step BitSource DataFault Bytes := fun s =>
  (.ok (s.bytes.take n), ⟨s.bytes.drop n, 0⟩)

end BitSource

end RpmProvision.Archive
