/-
Choosing one of several RPMs.

When several packages provide a requirement, an arbiter tells which of their RPMs can be installed.
The first RPM that it names is taken, by its file name.

* **`choose`** — the first candidate with the file name of the arbiter's first answer.
-/
import RpmProvision.Cloner
import RpmProvision.Text.Quoted

namespace RpmProvision.Selection

variable {τ : Type}

/-- Whether two paths end in the same name. -/
def sameFileName (p q : Path) : Bool := p.fileName?.isSome && p.fileName? == q.fileName?

/-- The candidate that an answer names. -/
def candidateNamed? (candidates : List Path) (answer : Path) : Option Path :=
  candidates.find? (sameFileName · answer)

/-- The candidates as log messages show them. -/
def shown (candidates : List Path) : String := Text.quotedList (candidates.map Path.text)

/-- Ask the arbiter which candidates can be installed. -/
def ask (arbiter : Arbiter τ) (r : Requirement) (candidates : List Path) :
    Step (Session τ) Error (List Path) :=
  ((arbiter.installable candidates).onError fun _ =>
    Session.log .error .selection
      s!"Failed while trying to pick an RPM providing '{r.name}' from {shown candidates}").mapError
    fun e => ⟨.competition, s!"'{r.toText}': {e.message}"⟩

/-- Choose among candidates that all provide a requirement. -/
def choose (arbiter : Arbiter τ) (r : Requirement) (candidates : List Path) :
    Step (Session τ) Error Path := do
  Session.log .debug .selection
    s!"Found {candidates.length} candidates for '{r.toText}'. Resolving."
  let installable ← ask arbiter r candidates
  match installable with
  | [] => do
    Session.log .error .selection
      s!"No RPM providing '{r.name}' can be installed from {shown candidates}"
    Step.fail ⟨.competition, s!"no installable candidate provides '{r.toText}'"⟩
  | first :: more => do
    if more = [] then pure ()
    else
      Session.log .warn .selection
        (s!"Found {installable.length} installable candidates to provide '{r.name}'. "
          ++ "Picking the first one.")
    match candidateNamed? candidates first with
    | some candidate => pure candidate
    | none =>
      Step.fail ⟨.competition,
        s!"resolver chose '{first.text}' which is not a candidate for '{r.toText}'"⟩

end RpmProvision.Selection
