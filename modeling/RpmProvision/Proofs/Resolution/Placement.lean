/-
Where the RPMs of resolved nodes lie.

The RPM of a resolved node is the output directory joined with the name of a package and `.rpm`.
Whether it stands directly in the output directory depends on that name: one with slashes can lead
to another directory, and an absolute one takes the place of the output directory.

* **`isEntryOf_outDir_iff`** — the packages whose RPMs stand directly in the output directory;
* **`not_isEntryOf_outDir_evil`** — a listing that leads a run out of its output directory.
-/
import RpmProvision.Listing.Provides
import RpmProvision.Proofs.Path
import RpmProvision.Proofs.Resolution.Effect
import RpmProvision.Proofs.Resolution.Requests

namespace RpmProvision.Resolution

open Step

variable {τ : Type}

/-- A package whose name has no slash has its RPM directly in the directory. -/
theorem isEntryOf_rpmPath {package : String} (h : '/' ∉ package.toList) (dir : Path) :
    (rpmPath package dir).IsEntryOf dir := Path.isEntryOf_child dir (Path.isName_rpm h)

/-- A run that takes packages over from a summary has an outcome for no node. -/
theorem outcomes_of_inputSummary {ctx : Context τ} {options : RunOptions} {s : RunState τ}
    {report : Report} {path : Path} (hin : options.inputSummary = some path)
    (h : (resolveGraph ctx options s).1 = .ok report) : report.outcomes = [] := by
  obtain ⟨s', hrun⟩ : ∃ s', resolveGraph ctx options s = (.ok report, s') := ⟨_, Prod.ext h rfl⟩
  obtain ⟨report', s₁, hprovision, hjudge⟩ := bind_eq_ok.mp hrun
  rw [judge_eq] at hjudge
  have hreport := judged_eq_ok (Prod.mk.inj hjudge).1
  rw [hin] at hprovision
  obtain ⟨restored, s₂, hrestore, hprovision⟩ := bind_eq_ok.mp hprovision
  obtain ⟨_, s₃, -, hprovision⟩ := bind_eq_ok.mp hprovision
  cases hprovision
  rw [hreport, restoreFrom_eq_ok hrestore]
  rfl

/-- For whatever graph, cloner, arbiter, manifest and output directory: the RPM of a node with a
resolved outcome is that of a package that was found for its requirement. It stands directly in the
output directory if the package with `.rpm` is one name, with at most a point before it where the
output directory has a text. If it is absolute, it stands there just if it is a path into the output
directory itself. -/
theorem isEntryOf_outDir_iff {ctx : Context τ} {options : RunOptions} {start final : RunState τ}
    {report : Report} {result : Except Error Report}
    (hrun : resolveGraph ctx options start = (result, final))
    (hreport : result = .ok report
      ∨ options.inputSummary = none ∧ (resolveUnresolved ctx start).1 = .ok report) :
    ∃ asked, resolveGraph ctx.recorded options (start.withRecord [])
        = (result, final.withRecord asked)
      ∧ ∀ id rpm state, Outcome.resolved id rpm state ∈ report.outcomes →
        ∃ before after packages package, start.graph.node? id = some before
          ∧ final.graph.node? id = some after ∧ after.rpmPath = some rpm
          ∧ (before.requirement, .ok packages) ∈ lookups asked ∧ package ∈ packages
          ∧ rpm = rpmPath package ctx.outDir
          ∧ (rpm.IsEntryOf ctx.outDir ↔
            if Path.isAbsolute ⟨package ++ ".rpm"⟩ then
              Path.IsEntryOf ⟨package ++ ".rpm"⟩ ctx.outDir
            else ∃ name, Path.components ⟨package ++ ".rpm"⟩ = [.name name]
              ∨ ctx.outDir.text ≠ "" ∧ Path.components ⟨package ++ ".rpm"⟩ = [.here, .name name]) := by
  cases hin : options.inputSummary with
  | some path =>
    -- a run that takes packages over has an outcome for no node
    have hmirror := (mirrors_resolveGraph ctx options).run_forget (start.withRecord [])
    rw [RunState.forget_withRecord, hrun] at hmirror
    have hresult : result = .ok report := by
      rcases hreport with h | ⟨h, -⟩
      · exact h
      · rw [hin] at h
        cases h
    have hnone : report.outcomes = [] := outcomes_of_inputSummary hin (by rw [hrun, hresult])
    refine ⟨(resolveGraph ctx.recorded options (start.withRecord [])).2.record, ?_, ?_⟩
    · obtain ⟨hfst, hsnd⟩ := Prod.mk.inj hmirror
      rw [hfst, hsnd]
      rfl
    · intro id rpm state hmem
      rw [hnone] at hmem
      cases hmem
  | none =>
    have hloop : (resolveUnresolved ctx start).1 = .ok report := by
      rcases hreport with rfl | ⟨-, h⟩
      · obtain ⟨s₁, hs₁, -⟩ := resolveGraph_eq_ok hin hrun
        rw [hs₁]
      · exact h
    obtain ⟨asked, hasked, hall⟩ := resolveGraph_supplied hin hloop
    rw [hrun] at hasked hall
    refine ⟨asked, hasked, fun id rpm state hmem => ?_⟩
    obtain ⟨⟨r, answer⟩, hlookup, before, after, hbefore, hafter, hreq, hfrom⟩ :=
      exists_of_forall₂ hall hmem
    obtain ⟨hrpm, packages, hanswer, package, hpackage, -, rfl, -⟩ := hfrom id rpm state rfl
    dsimp only at hreq hanswer
    subst hreq hanswer
    exact ⟨before, after, packages, package, hbefore, hafter, hrpm, hlookup, hpackage, rfl,
      Path.isEntryOf_join_iff⟩

/-- The RPM of zlib stands in the output directory if the name of its package is as it should be. -/
theorem isEntryOf_outDir_zlib :
    (resolveGraph zlibOnly ⟨none, none, false⟩ zlibStart).1 = .ok zlibReport
      ∧ ∃ package, (⟨"/out/zlib.rpm"⟩ : Path) = rpmPath package ⟨"/out"⟩
        ∧ (Path.IsEntryOf ⟨"/out/zlib.rpm"⟩ ⟨"/out"⟩ ↔
          if Path.isAbsolute ⟨package ++ ".rpm"⟩ then Path.IsEntryOf ⟨package ++ ".rpm"⟩ ⟨"/out"⟩
          else ∃ name, Path.components ⟨package ++ ".rpm"⟩ = [.name name]
            ∨ "/out" ≠ "" ∧ Path.components ⟨package ++ ".rpm"⟩ = [.here, .name name]) := by
  have hresult : (resolveGraph zlibOnly ⟨none, none, false⟩ zlibStart).1 = .ok zlibReport := rfl
  obtain ⟨asked, -, hall⟩ := isEntryOf_outDir_iff (Prod.ext hresult rfl) (.inl rfl)
  obtain ⟨_, _, _, package, -, -, -, -, -, hrpm, hiff⟩ :=
    hall 0 ⟨"/out/zlib.rpm"⟩ .cached List.mem_cons_self
  exact ⟨hresult, package, hrpm, hiff⟩

/-! ### A package with an absolute name -/

/-- A package whose name is absolute. -/
def evilPackage : String := "/evil-1.0-1.x86_64"

/-- Where this package provides everything. -/
def evilContext : Context Unit where
  cloner := .ofAnswers (fun _ => .ok [evilPackage]) fun _ _ => .ok false
  arbiter := .ofAnswers .ok
  manifest := .ofList []
  outDir := ⟨"/out"⟩
  cloneDeps := false

/-- Both nodes have an RPM next to the output directory. -/
def evilReport : Report where
  outcomes := [.resolved 0 ⟨"/evil-1.0-1.x86_64.rpm"⟩ .cached,
    .resolved 1 ⟨"/evil-1.0-1.x86_64.rpm"⟩ .cached]
  restored := false

/-- A listing can show a package that leads a run out of its output directory. -/
theorem not_isEntryOf_outDir_evil :
    Listing.Provides.parse "/evil-1.0-1.x86_64 : a tool\n" = [evilPackage]
      ∧ (resolveGraph evilContext ⟨none, none, false⟩ zlibStart).1 = .ok evilReport
      ∧ .resolved 0 ⟨"/evil-1.0-1.x86_64.rpm"⟩ .cached ∈ evilReport.outcomes
      ∧ ¬ Path.IsEntryOf ⟨"/evil-1.0-1.x86_64.rpm"⟩ evilContext.outDir := by
  refine ⟨by decide +kernel, rfl, List.mem_cons_self, ?_⟩
  rintro ⟨name, hname⟩
  have hlength := congrArg List.length hname
  rw [List.length_append] at hlength
  change 2 = 2 + 1 at hlength
  cases hlength

end RpmProvision.Resolution
