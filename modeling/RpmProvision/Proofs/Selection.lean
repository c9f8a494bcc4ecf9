/-
Choosing one of several RPMs, taken apart.

The arbiter is asked once. What is chosen then depends on its answer alone; what is logged besides
changes nothing. A candidate is found by its file name, and what is the same path has the same file
name, so a search by the path of the candidate ends at the same place.

* **`choose_eq`** — announce, ask, remark, pick;
* **`pick`** — the choice that an answer leads to;
* **`FirstAt`** — the place where a candidate is found.
-/
import RpmProvision.Proofs.Path
import RpmProvision.Proofs.Step
import RpmProvision.Selection

namespace RpmProvision.Selection

open Step

variable {τ : Type}

/-- The choice that an answer of the arbiter leads to. -/
def pick (r : Requirement) (candidates : List Path) : List Path → Except Error Path
  | [] => .error ⟨.competition, s!"no installable candidate provides '{r.toText}'"⟩
  | first :: _ =>
    match candidateNamed? candidates first with
    | some candidate => .ok candidate
    | none => .error ⟨.competition,
        s!"resolver chose '{first.text}' which is not a candidate for '{r.toText}'"⟩

/-- What is logged about an answer of the arbiter. -/
def remark (r : Requirement) (candidates : List Path) : List Path → Step World Error Unit
  | [] => World.log .error .selection
      s!"No RPM providing '{r.name}' can be installed from {shown candidates}"
  | [_] => pure ()
  | first :: second :: more => World.log .warn .selection
      (s!"Found {(first :: second :: more).length} installable candidates to provide '{r.name}'. "
        ++ "Picking the first one.")

/-- The message that announces a choice. -/
def choiceMessage (r : Requirement) (candidates : List Path) : String :=
  s!"Found {candidates.length} candidates for '{r.toText}'. Resolving."

theorem choose_eq (a : Arbiter τ) (r : Requirement) (candidates : List Path) :
    choose a r candidates = (do
      Session.log .debug .selection (choiceMessage r candidates)
      let installable ← ask a r candidates
      Session.onWorld (remark r candidates installable)
      Step.ofExcept (pick r candidates installable)) := by
  have hpick (x : Option Path) (e : Error) :
      (match x with
        | some candidate => pure candidate
        | none => Step.fail e : Step (Session τ) Error Path)
        = Step.ofExcept (match x with
          | some candidate => .ok candidate
          | none => .error e) := by
    cases x <;> rfl
  unfold choose
  refine congrArg _ (funext fun _ => congrArg _ (funext fun installable => ?_))
  match installable with
  | [] => rfl
  | [first] => exact hpick ..
  | first :: second :: more =>
    have hne : ¬ second :: more = [] := List.cons_ne_nil _ _
    simp only [hne, if_false]
    exact congrArg _ (funext fun _ => hpick ..)

/-- An error of the choice concerns the competition. -/
theorem pick_error {r : Requirement} {candidates installable : List Path} {e : Error}
    (h : pick r candidates installable = .error e) : e.kind = .competition := by
  match installable with
  | [] =>
    cases h
    rfl
  | first :: more =>
    rw [pick] at h
    cases hc : candidateNamed? candidates first with
    | none =>
      rw [hc] at h
      cases h
      rfl
    | some c =>
      rw [hc] at h
      cases h

/-- What comes of the arbiter's answer: the choice it leads to, or that it failed. -/
def verdict (r : Requirement) (candidates : List Path) : Except Error (List Path) →
    Except Error Path
  | .ok installable => pick r candidates installable
  | .error e => .error ⟨.competition, s!"'{r.toText}': {e.message}"⟩

theorem verdict_error {r : Requirement} {candidates : List Path}
    {answer : Except Error (List Path)} {e : Error} (h : verdict r candidates answer = .error e) :
    e.kind = .competition := by
  cases answer with
  | ok installable => exact pick_error h
  | error e' =>
    cases h
    rfl

/-- The session in which the arbiter is asked. -/
def announced (r : Requirement) (candidates : List Path) (s : Session τ) : Session τ :=
  (Session.log (ε := Error) .debug .selection (choiceMessage r candidates) s).2

/-- A choice is what comes of the arbiter's answer. -/
theorem choose_fst (a : Arbiter τ) (r : Requirement) (candidates : List Path) (s : Session τ) :
    (choose a r candidates s).1
      = verdict r candidates (a.installable candidates (announced r candidates s)).1 := by
  rw [choose_eq]
  show (andThen _ (ask a r candidates (announced r candidates s))).1 = _
  rw [ask, mapError_apply, onError_apply]
  rcases h : a.installable candidates (announced r candidates s) with ⟨e | installable, s'⟩
  · rfl
  · match installable with
    | [] => rfl
    | [_] => rfl
    | _ :: _ :: _ => rfl

theorem fails_choose (a : Arbiter τ) (r : Requirement) (candidates : List Path) :
    Fails (fun e => e.kind = .competition) (choose a r candidates) := by
  refine ⟨fun s e he => ?_⟩
  rw [choose_fst] at he
  exact verdict_error he

/-! ### Candidates by their file names -/

/-- Two paths have the same file name. -/
def SharesName (p q : Path) : Prop := ∃ name, p.fileName? = some name ∧ q.fileName? = some name

theorem sameFileName_iff {p q : Path} : sameFileName p q ↔ SharesName p q := by
  rw [sameFileName, SharesName, Bool.and_eq_true, beq_iff_eq, Option.isSome_iff_exists]
  constructor
  · rintro ⟨⟨name, hname⟩, heq⟩
    exact ⟨name, hname, heq ▸ hname⟩
  · rintro ⟨name, hp, hq⟩
    exact ⟨⟨name, hp⟩, hp.trans hq.symm⟩

/-- The first place in a list of RPMs where one has the file name of an answer. -/
structure FirstAt (rpms : List Path) (answer : Path) (i : Nat) : Prop where
  shares : ∃ rpm, rpms[i]? = some rpm ∧ SharesName rpm answer
  first : ∀ j < i, ∀ rpm, rpms[j]? = some rpm → ¬ SharesName rpm answer

theorem candidateNamed?_eq_some_iff {rpms : List Path} {answer rpm : Path} :
    candidateNamed? rpms answer = some rpm ↔ ∃ i, FirstAt rpms answer i ∧ rpms[i]? = some rpm := by
  rw [candidateNamed?, List.find?_eq_some_iff_getElem]
  constructor
  · rintro ⟨hshares, i, hi, rfl, hfirst⟩
    refine ⟨i, ⟨⟨rpms[i], List.getElem?_eq_getElem hi, sameFileName_iff.mp hshares⟩, ?_⟩,
      List.getElem?_eq_getElem hi⟩
    intro j hj rpm hrpm
    obtain ⟨hlt, rfl⟩ := List.getElem?_eq_some_iff.mp hrpm
    rw [← sameFileName_iff]
    simpa using hfirst j hj
  · rintro ⟨i, hfirst, hi⟩
    obtain ⟨rpm', hrpm', hshares⟩ := hfirst.shares
    cases hi.symm.trans hrpm'
    obtain ⟨hlt, rfl⟩ := List.getElem?_eq_some_iff.mp hi
    refine ⟨sameFileName_iff.mpr hshares, i, hlt, rfl, fun j hj => ?_⟩
    have hnot := hfirst.first j hj rpms[j] (List.getElem?_eq_getElem (hj.trans hlt))
    rw [← sameFileName_iff] at hnot
    simpa using hnot

/-- The first place of an RPM with the file name of an answer is the first place of its path. -/
theorem FirstAt.findIdx?_sameAs {rpms : List Path} {answer rpm : Path} {i : Nat}
    (h : FirstAt rpms answer i) (hi : rpms[i]? = some rpm) :
    rpms.findIdx? (·.sameAs rpm) = some i := by
  obtain ⟨rpm', hrpm', name, hname, hanswer⟩ := h.shares
  cases hi.symm.trans hrpm'
  obtain ⟨hlt, rfl⟩ := List.getElem?_eq_some_iff.mp hi
  refine List.findIdx?_eq_some_iff_getElem.mpr ⟨hlt, beq_self_eq_true _, fun j hj hsame => ?_⟩
  refine h.first j hj rpms[j] (List.getElem?_eq_getElem (hj.trans hlt)) ⟨name, ?_, hanswer⟩
  rw [Path.fileName?_of_sameAs hsame, hname]

/-- Among the RPMs of packages in one directory the one with the file name of a package's RPM is the
one of this package. -/
theorem candidateNamed?_rpmPath {answer dir : Path} {package : String} {names : List String}
    (hnames : ∀ name ∈ names, '/' ∉ name.toList)
    (hanswer : answer.fileName? = some (package ++ ".rpm")) :
    candidateNamed? (names.map (rpmPath · dir)) answer
      = if package ∈ names then some (rpmPath package dir) else none := by
  induction names with
  | nil => rfl
  | cons name rest ih =>
    have hrest := ih fun n hn => hnames n (List.mem_cons_of_mem name hn)
    have hname : (rpmPath name dir).fileName? = some (name ++ ".rpm") :=
      Path.fileName?_child dir (Path.isName_rpm (hnames name List.mem_cons_self))
    rw [List.map_cons, candidateNamed?, List.find?_cons]
    by_cases h : name = package
    · have hsame : sameFileName (rpmPath name dir) answer = true :=
        sameFileName_iff.mpr ⟨_, hname, h ▸ hanswer⟩
      rw [hsame, h, if_pos List.mem_cons_self]
    · have hsame : sameFileName (rpmPath name dir) answer = false := by
        rw [← Bool.not_eq_true, sameFileName_iff]
        rintro ⟨n, hn, hn'⟩
        rw [hname] at hn
        rw [hanswer, ← hn, Option.some.injEq, String.append_left_inj] at hn'
        exact h hn'.symm
      rw [hsame]
      change candidateNamed? (rest.map (rpmPath · dir)) answer = _
      rw [hrest]
      simp [Ne.symm h]

/-- A candidate is chosen exactly if the arbiter names an RPM whose file name one of them has. -/
theorem verdict_eq_ok_iff {r : Requirement} {rpms : List Path} {answer : Except Error (List Path)}
    {rpm : Path} : verdict r rpms answer = .ok rpm ↔
      ∃ first more, answer = .ok (first :: more) ∧ candidateNamed? rpms first = some rpm := by
  match answer with
  | .error e => simp [verdict]
  | .ok [] => simp [verdict, pick]
  | .ok (first :: more) =>
    cases h : candidateNamed? rpms first with
    | none => simp [verdict, pick, h]
    | some c => simp [verdict, pick, h]

end RpmProvision.Selection
