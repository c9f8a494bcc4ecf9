/-
Test transactions: what the `rpm` tool says about RPMs that compete.

The tool is run on all RPMs at once, on an empty root of its own, without installing anything. Its
debug output shows the packages that it added to the transaction.
-/
import RpmProvision.Cloner
import RpmProvision.Listing.Transaction

namespace RpmProvision.TestTransaction

variable {τ : Type}

/-- The arguments of a run for some RPMs. -/
def args (root : Path) (rpms : List Path) : List String :=
  ["-Uvvh", "--replacepkgs", "--nodeps", "--test", "--root", root.text] ++ rpms.map Path.text

/-- The directory of the first RPM. -/
def dirOf (rpms : List Path) : Path := (rpms.head?.bind Path.parent?).getD ⟨""⟩

/-- What the tool's answer says about the RPMs. A failed run counts if it added packages. -/
def verdict (rpms : List Path) (reply : Reply) : Except Error (List Path) :=
  let output := Text.Utf8.decodeLossy reply.err
  if (Listing.Transaction.parse output).isEmpty && !reply.success then
    .error ⟨.command, s!"rpm --test failed: {Text.trim output}"⟩
  else .ok (Listing.Transaction.rpmPaths output (dirOf rpms))

/-- The RPMs that the tool adds to a transaction. -/
def run (tools : Tools) (root : Path) (rpms : List Path) : Step World Error (List Path) := do
  let reply ← (World.spawn tools "rpm" (args root rpms)).mapError fun fault =>
    ⟨.command, s!"Failed to run rpm: {fault.message}. Is rpm installed?"⟩
  Step.ofExcept (verdict rpms reply)

/-- The arbiter that asks the tool. -/
def arbiter (tools : Tools) (root : Path) : Arbiter τ where
  installable rpms := Session.onWorld (run tools root rpms)

/-- Make the root for test transactions, below a directory if one is given. -/
def makeRoot : Option Path → Step World Error Path
  | some dir => do
    (World.onDisk (Disk.makeDirWithParents dir)).mapError Error.ofIo
    (World.makeScratch dir).mapError Error.ofIo
  | none => (World.makeScratch World.systemTemp).mapError Error.ofIo

end RpmProvision.TestTransaction
