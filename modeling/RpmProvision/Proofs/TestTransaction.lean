/-
Which RPM a test transaction chooses.

The tool's output names the packages that it added, and its answer are the RPMs of these names in the
directory of the first candidate. A candidate is found by its file name, so it does not matter which
directory that is: where candidates are the RPMs of packages in one directory, the one is chosen whose
package the first line adds that adds any.

* **`Prints`** — the lines that the tool prints if it can be started;
* **`installable_eq_error_iff`** — when the tool gives no answer;
* **`choose_eq_ok_iff`** — what is chosen with the tool's answer;
* **`chosen_by_first_addition`** — both, and what is read off the lines.
-/
import RpmProvision.Proofs.Listing.Transaction
import RpmProvision.Proofs.Selection
import RpmProvision.TestTransaction

namespace RpmProvision.TestTransaction

open Listing.Transaction

variable {τ : Type} {tools : Tools} {root : Path} {rpms : List Path} {ls : List Line}

/-! ### The tool's answer -/

/-- If the tool can be started on some RPMs, its debug output consists of some lines. -/
def Prints (tools : Tools) (root : Path) (rpms : List Path) (w : World) (ls : List Line) : Prop :=
  ∀ reply, (World.spawn tools "rpm" (args root rpms) w).1 = .ok reply →
    Text.Utf8.decodeLossy reply.err = transcript ls

theorem installable_apply (tools : Tools) (root : Path) (rpms : List Path) (s : Session τ) :
    ((arbiter tools root).installable rpms s).1
      = match (World.spawn tools "rpm" (args root rpms) s.world).1 with
        | .ok reply => verdict rpms reply
        | .error fault =>
          .error ⟨.command, s!"Failed to run rpm: {fault.message}. Is rpm installed?"⟩ := by
  show (run tools root rpms s.world).1 = _
  unfold run
  rw [Step.bind_apply, Step.mapError_apply]
  rcases World.spawn tools "rpm" (args root rpms) s.world with ⟨fault | reply, w⟩
  · rfl
  · rfl

/-- A run that failed counts only if it added a package. -/
theorem verdict_of_transcript (rpms : List Path) {reply : Reply}
    (h : Text.Utf8.decodeLossy reply.err = transcript ls) :
    verdict rpms reply = if added ls = [] ∧ reply.exitCode ≠ 0
      then .error ⟨.command, s!"rpm --test failed: {Text.trim (transcript ls)}"⟩
      else .ok ((added ls).map fun package => (dirOf rpms).child (package ++ ".rpm")) := by
  have hcounts : ((added ls).isEmpty && !reply.success) = true
      ↔ added ls = [] ∧ reply.exitCode ≠ 0 := by
    rw [Bool.and_eq_true, List.isEmpty_iff, Reply.success]
    simp
  rw [verdict, h, Listing.Transaction.rpmPaths, parse_transcript]
  simp only [hcounts]

/-- There is no answer if the tool cannot be started, or fails without adding a package. -/
theorem installable_eq_error_iff {s : Session τ} (h : Prints tools root rpms s.world ls) :
    (∃ e, ((arbiter tools root).installable rpms s).1 = .error e) ↔
      (∃ fault, (World.spawn tools "rpm" (args root rpms) s.world).1 = .error fault)
        ∨ (∀ a, .addition a ∉ ls) ∧ ∃ reply,
          (World.spawn tools "rpm" (args root rpms) s.world).1 = .ok reply ∧ reply.exitCode ≠ 0 := by
  rw [installable_apply, ← added_eq_nil_iff]
  cases hspawn : (World.spawn tools "rpm" (args root rpms) s.world).1 with
  | error fault => simp
  | ok reply =>
    dsimp only
    rw [verdict_of_transcript rpms (h reply hspawn)]
    by_cases hfailed : added ls = [] ∧ reply.exitCode ≠ 0
    · rw [if_pos hfailed]
      simp [hfailed]
    · rw [if_neg hfailed]
      simpa using hfailed

/-! ### The choice -/

/-- What is chosen is the RPM of the first package that is added. -/
theorem choose_eq_ok_iff {names : List String} (hnames : ∀ name ∈ names, '/' ∉ name.toList)
    {dir : Path} {r : Requirement} {s : Session τ}
    (h : Prints tools root (names.map (rpmPath · dir))
      (Selection.announced r (names.map (rpmPath · dir)) s).world ls) {rpm : Path} :
    (Selection.choose (arbiter tools root) r (names.map (rpmPath · dir)) s).1 = .ok rpm ↔
      (∃ reply, (World.spawn tools "rpm" (args root (names.map (rpmPath · dir)))
        (Selection.announced r (names.map (rpmPath · dir)) s).world).1 = .ok reply)
      ∧ ∃ package ∈ names, ls.findSome? Line.package? = some package
        ∧ rpm = rpmPath package dir := by
  rw [Selection.choose_fst, Selection.verdict_eq_ok_iff, installable_apply]
  cases hspawn : (World.spawn tools "rpm" (args root (names.map (rpmPath · dir)))
      (Selection.announced r (names.map (rpmPath · dir)) s).world).1 with
  | error fault => simp
  | ok reply =>
    dsimp only
    rw [verdict_of_transcript _ (h reply hspawn), ← head?_added]
    cases hadded : added ls with
    | nil =>
      by_cases hexit : reply.exitCode = 0 <;> simp [hexit]
    | cons package more =>
      have hfirst : ls.findSome? Line.package? = some package := by
        rw [← head?_added, hadded, List.head?_cons]
      have hname : ((dirOf (names.map (rpmPath · dir))).child (package ++ ".rpm")).fileName?
          = some (package ++ ".rpm") :=
        Path.fileName?_child _ (Path.isName_rpm (not_mem_of_findSome? hfirst))
      have hnamed : Selection.candidateNamed? (names.map (rpmPath · dir))
          ((dirOf (names.map (rpmPath · dir))).child (package ++ ".rpm"))
          = if package ∈ names then some (rpmPath package dir) else none :=
        Selection.candidateNamed?_rpmPath hnames hname
      rw [if_neg (by simp), List.map_cons, List.head?_cons]
      constructor
      · rintro ⟨first, rest, hanswer, hfound⟩
        cases hanswer
        rw [hnamed, Option.ite_none_right_eq_some] at hfound
        obtain ⟨hmem, hrpm⟩ := hfound
        exact ⟨⟨reply, rfl⟩, package, hmem, rfl, (Option.some.inj hrpm).symm⟩
      · rintro ⟨-, package', hmem, hpackage, rfl⟩
        cases hpackage
        exact ⟨_, _, rfl, by rw [hnamed, if_pos hmem]⟩

/-- Of an output that consists of lines each of which adds a package, or does not begin like a line
that does, the packages are read off in the order in which they are first added. There is no answer
exactly if the tool cannot be started, or if it fails and no line adds a package. Of the RPMs of
packages in one directory that of the first package that a line adds is chosen; if it is the RPM of
none of them, the competition is not decided. -/
theorem chosen_by_first_addition (tools : Tools) (root : Path) (ls : List Line) :
    parse (transcript ls) = added ls
      ∧ (∀ rpms (s : Session τ), Prints tools root rpms s.world ls →
        ((∃ e, ((arbiter tools root).installable rpms s).1 = .error e) ↔
          (∃ fault, (World.spawn tools "rpm" (args root rpms) s.world).1 = .error fault)
            ∨ (∀ a, .addition a ∉ ls) ∧ ∃ reply,
              (World.spawn tools "rpm" (args root rpms) s.world).1 = .ok reply
                ∧ reply.exitCode ≠ 0))
      ∧ ∀ dir (names : List String) r (s : Session τ), (∀ name ∈ names, '/' ∉ name.toList) →
        let rpms := names.map (rpmPath · dir)
        let w := (Selection.announced r rpms s).world
        let chosen := (Selection.choose (arbiter tools root) r rpms s).1
        Prints tools root rpms w ls →
        (∀ rpm, chosen = .ok rpm ↔
          (∃ reply, (World.spawn tools "rpm" (args root rpms) w).1 = .ok reply)
            ∧ ∃ package ∈ names, ls.findSome? Line.package? = some package
              ∧ rpm = rpmPath package dir)
          ∧ ∀ e, chosen = .error e → e.kind = .competition := by
  refine ⟨parse_transcript ls, fun rpms s => installable_eq_error_iff, ?_⟩
  intro dir names r s hnames rpms w chosen h
  refine ⟨fun rpm => choose_eq_ok_iff hnames h, fun e he => ?_⟩
  exact (Selection.fails_choose (arbiter tools root) r rpms).of_error s e he

/-- Lines of which the second adds zlib. -/
def zlibLines : List Line :=
  [.other "error: curl conflicts".toList (fun _ h => by simp [lead] at h) (by decide),
    .addition ⟨4, "zlib-1.2-1".toList, "x86_64".toList, " 0x0".toList,
      ⟨by decide, no_blank_of_all rfl, by decide⟩, ⟨by decide, no_blank_of_all rfl, by decide⟩,
      by decide, by decide⟩]

/-- The reply of a tool that prints these lines and fails. -/
def zlibReply : Reply := ⟨1, [], (transcript zlibLines).toList.map fun c => c.toNat.toUInt8⟩

/-- The tool. -/
def zlibTools : Tools := fun _ _ disk => some (zlibReply, disk)

/-- The session in which zlib is to be chosen. -/
def zlibSession : Session Unit := ⟨.start ⟨∅, [], ∅⟩, ()⟩

/-- The second candidate is chosen, although the tool fails. -/
theorem chosen_zlib :
    (Selection.choose (arbiter zlibTools ⟨"/root"⟩) ⟨"zlib", none, none⟩
      [⟨"/out/curl-8-1.x86_64.rpm"⟩, ⟨"/out/zlib-1.2-1.x86_64.rpm"⟩] zlibSession).1
      = .ok ⟨"/out/zlib-1.2-1.x86_64.rpm"⟩ := by
  have hprints (w : World) : Prints zlibTools ⟨"/root"⟩
      [⟨"/out/curl-8-1.x86_64.rpm"⟩, ⟨"/out/zlib-1.2-1.x86_64.rpm"⟩] w zlibLines := by
    intro reply hreply
    cases hreply
    decide +kernel
  obtain ⟨-, -, hchoice⟩ := chosen_by_first_addition zlibTools ⟨"/root"⟩ zlibLines
  obtain ⟨hok, -⟩ := hchoice ⟨"/out"⟩ ["curl-8-1.x86_64", "zlib-1.2-1.x86_64"]
    ⟨"zlib", none, none⟩ zlibSession (by decide) (hprints _)
  exact (hok _).mpr ⟨⟨zlibReply, rfl⟩, "zlib-1.2-1.x86_64", by decide, rfl, rfl⟩

end RpmProvision.TestTransaction
