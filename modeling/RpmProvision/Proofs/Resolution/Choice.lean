/-
Which of several packages is chosen.

The arbiter names RPMs, and a node needs one of its own candidates. The candidate is searched for by
the file name of the arbiter's first RPM, and then its package by the path of the candidate. Paths
with different texts can be the same path, and different packages can have RPMs of one name, but both
searches end at the same place of the list: what is the same path has the same file name.

* **`Prefers`** — the package that an answer of the arbiter leads to;
* **`chooseAmong_prefers`** — a candidate is chosen as the arbiter prefers;
* **`chosen_is_consulted`** — what the chosen RPM is, and whose RPM it is.
-/
import RpmProvision.Proofs.Resolution.Outcomes

namespace RpmProvision.Resolution

open Step

variable {τ : Type}

/-- The package that an answer of the arbiter leads to: the first one whose RPM has the file name of
the first RPM in the answer, or none if the answer lets nothing be chosen. -/
inductive Prefers (outDir : Path) (r : Requirement) (packages : List String) :
    Except Error (List Path) → Except Error String → Prop
  | takes {first : Path} {more : List Path} {i : Nat} {package : String}
      (hfirst : Selection.FirstAt (packages.map (rpmPath · outDir)) first i)
      (hpackage : packages[i]? = some package) :
      Prefers outDir r packages (.ok (first :: more)) (.ok package)
  | refuses {answer : Except Error (List Path)} {e : Error}
      (hverdict : Selection.verdict r (packages.map (rpmPath · outDir)) answer = .error e) :
      Prefers outDir r packages answer (.error e)

theorem candidates_map_rpm (outDir : Path) (packages : List String) :
    (candidates outDir packages).map Candidate.rpm = packages.map (rpmPath · outDir) := by
  rw [candidates, List.map_map]
  rfl

/-- The candidate with the path of the RPM that was found by its file name is the one of the package
in the same place. -/
theorem find?_candidates {outDir answer : Path} {packages : List String} {i : Nat} {package : String}
    (hfirst : Selection.FirstAt (packages.map (rpmPath · outDir)) answer i)
    (hpackage : packages[i]? = some package) :
    (candidates outDir packages).find? (·.rpm.sameAs (rpmPath package outDir))
      = some ⟨package, rpmPath package outDir⟩ := by
  have hplace : ((candidates outDir packages).map Candidate.rpm).findIdx?
      (·.sameAs (rpmPath package outDir)) = some i := by
    rw [candidates_map_rpm]
    exact hfirst.findIdx?_sameAs (by rw [List.getElem?_map, hpackage]; rfl)
  rw [List.findIdx?_map] at hplace
  change (candidates outDir packages).findIdx? (·.rpm.sameAs (rpmPath package outDir)) = some i
    at hplace
  rw [List.find?_eq_bind_findIdx?_getElem?, hplace, Option.bind_some, candidates, List.getElem?_map,
    hpackage]
  rfl

/-- The candidate is chosen that has the path of the chosen RPM. -/
theorem chooseAmong_apply (ctx : Context τ) (r : Requirement) (all : List Candidate)
    (s : Session τ) :
    (chooseAmong ctx r all s).1 = ((Selection.choose ctx.arbiter r (all.map Candidate.rpm) s).1 >>=
      fun rpm => match all.find? (·.rpm.sameAs rpm) with
        | some c => .ok c
        | none => .error ⟨.competition, s!"'{rpm.text}' is not a candidate"⟩) := by
  unfold chooseAmong
  rw [bind_apply]
  rcases Selection.choose ctx.arbiter r (all.map Candidate.rpm) s with ⟨e | rpm, s'⟩
  · rfl
  · rw [andThen_ok]
    show _ = match all.find? (·.rpm.sameAs rpm) with | some c => _ | none => _
    cases all.find? (·.rpm.sameAs rpm) <;> rfl

/-- The candidate is chosen that stands where the arbiter's first RPM is found by its file name. -/
theorem chooseAmong_of_firstAt {ctx : Context τ} {r : Requirement} {packages : List String}
    {s : Session τ} {first : Path} {more : List Path} {i : Nat} {package : String}
    (hanswer : (ctx.arbiter.installable (packages.map (rpmPath · ctx.outDir))
      (Selection.announced r (packages.map (rpmPath · ctx.outDir)) s)).1 = .ok (first :: more))
    (hfirst : Selection.FirstAt (packages.map (rpmPath · ctx.outDir)) first i)
    (hpackage : packages[i]? = some package) :
    (chooseAmong ctx r (candidates ctx.outDir packages) s).1
      = .ok ⟨package, rpmPath package ctx.outDir⟩ := by
  have hnamed : Selection.candidateNamed? (packages.map (rpmPath · ctx.outDir)) first
      = some (rpmPath package ctx.outDir) := by
    refine Selection.candidateNamed?_eq_some_iff.mpr ⟨i, hfirst, ?_⟩
    rw [List.getElem?_map, hpackage]
    rfl
  rw [chooseAmong_apply, candidates_map_rpm, Selection.choose_fst,
    Selection.verdict_eq_ok_iff.mpr ⟨first, more, hanswer, hnamed⟩]
  show (match (candidates ctx.outDir packages).find? (·.rpm.sameAs (rpmPath package ctx.outDir)) with
    | some c => _
    | none => _) = _
  rw [find?_candidates hfirst hpackage]

/-- A candidate is chosen as the arbiter prefers. -/
theorem chooseAmong_prefers (ctx : Context τ) (r : Requirement) (packages : List String)
    (s : Session τ) :
    ∃ chosen, Prefers ctx.outDir r packages (ctx.arbiter.installable
        (packages.map (rpmPath · ctx.outDir))
        (Selection.announced r (packages.map (rpmPath · ctx.outDir)) s)).1 chosen
      ∧ (chooseAmong ctx r (candidates ctx.outDir packages) s).1
        = chosen.map fun package => ⟨package, rpmPath package ctx.outDir⟩ := by
  cases hverdict : Selection.verdict r (packages.map (rpmPath · ctx.outDir))
      (ctx.arbiter.installable (packages.map (rpmPath · ctx.outDir))
        (Selection.announced r (packages.map (rpmPath · ctx.outDir)) s)).1 with
  | error e =>
    refine ⟨.error e, .refuses hverdict, ?_⟩
    rw [chooseAmong_apply, candidates_map_rpm, Selection.choose_fst, hverdict]
    rfl
  | ok rpm =>
    obtain ⟨first, more, hanswer, hnamed⟩ := Selection.verdict_eq_ok_iff.mp hverdict
    obtain ⟨i, hfirst, hi⟩ := Selection.candidateNamed?_eq_some_iff.mp hnamed
    rw [List.getElem?_map, Option.map_eq_some_iff] at hi
    obtain ⟨package, hpackage, -⟩ := hi
    refine ⟨.ok package, ?_, chooseAmong_of_firstAt hanswer hfirst hpackage⟩
    rw [hanswer]
    exact .takes hfirst hpackage

/-! ### The chosen RPM and its package -/

/-- The resolution of a node comes to a choice among some packages: they were found for its
requirement, and all of them have been got. -/
structure ComesToChoice (ctx : Context τ) (n : Node) (start : Progress τ) (packages : List String)
    (p : Progress τ) : Prop where
  unresolved : n.state = .unresolved
  found : ∃ s, findProviders ctx n (begun n start.session) = (.ok packages, s)
    ∧ fetchMissing ctx packages ⟨s, start.cache⟩ = (.ok (), p)

/-- What is left to do then is to choose and to settle on what is chosen. -/
theorem ComesToChoice.resolveNode_eq {ctx : Context τ} {n : Node} {start p : Progress τ}
    {packages : List String} (h : ComesToChoice ctx n start packages p) :
    resolveNode ctx n start = (Progress.onSession (choose ctx n.requirement
      (candidates ctx.outDir packages)) >>= fun c => settle ctx n c) p := by
  obtain ⟨s, hfound, hfetched⟩ := h.found
  rw [resolveNode_of_unresolved ctx h.unresolved, hfound, andThen_ok, resolveFrom, bind_apply,
    hfetched]
  rfl

theorem choose_of_two {packages : List String} (htwo : 2 ≤ packages.length) (ctx : Context τ)
    (r : Requirement) (outDir : Path) : choose ctx r (candidates outDir packages)
      = chooseAmong ctx r (candidates outDir packages) := by
  match packages with
  | _ :: _ :: _ => rfl

/-- Of two or more packages an RPM is chosen if the arbiter's answer starts with an RPM whose file
name one of them has, and then it is the first one with this name. The search by its path ends at
the same place. So a node whose resolution comes to this choice gets the RPM of a package that the
cache is asked about. -/
theorem chosen_is_consulted {ctx : Context τ} {r : Requirement} {packages : List String}
    (htwo : 2 ≤ packages.length) (p : Progress τ) :
    let rpms := packages.map (rpmPath · ctx.outDir)
    let answer := (ctx.arbiter.installable rpms (Selection.announced r rpms p.session)).1
    let chosen := (Selection.choose ctx.arbiter r rpms p.session).1
    ((∃ rpm, chosen = .ok rpm) ↔ ∃ first more, answer = .ok (first :: more)
        ∧ ∃ rpm ∈ rpms, Selection.SharesName rpm first)
      ∧ (∀ e, chosen = .error e → e.kind = .competition)
      ∧ ∀ rpm, chosen = .ok rpm → ∃ first more i package, answer = .ok (first :: more)
        ∧ Selection.FirstAt rpms first i ∧ packages[i]? = some package
        ∧ rpm = rpmPath package ctx.outDir ∧ rpms.findIdx? (·.sameAs rpm) = some i
        ∧ ∀ n start, ComesToChoice ctx n start packages p → n.requirement = r →
          (resolveNode ctx n start).1 = .ok (n.resolved rpm
            (ctx.manifest.isPrebuiltToolchain rpm (p.cache.isPrebuilt package))) := by
  intro rpms answer chosen
  have hfst : chosen = Selection.verdict r rpms answer :=
    Selection.choose_fst ctx.arbiter r rpms p.session
  rw [hfst]
  refine ⟨?_, fun e he => Selection.verdict_error he, fun rpm hrpm => ?_⟩
  · constructor
    · rintro ⟨rpm, hrpm⟩
      obtain ⟨first, more, hanswer, hnamed⟩ := Selection.verdict_eq_ok_iff.mp hrpm
      obtain ⟨i, hfirst, -⟩ := Selection.candidateNamed?_eq_some_iff.mp hnamed
      obtain ⟨rpm', hrpm', hshares⟩ := hfirst.shares
      exact ⟨first, more, hanswer, rpm', List.mem_of_getElem? hrpm', hshares⟩
    · rintro ⟨first, more, hanswer, rpm, hmem, hshares⟩
      have hsome : (Selection.candidateNamed? rpms first).isSome :=
        List.find?_isSome.mpr ⟨rpm, hmem, Selection.sameFileName_iff.mpr hshares⟩
      obtain ⟨rpm', hnamed⟩ := Option.isSome_iff_exists.mp hsome
      exact ⟨rpm', Selection.verdict_eq_ok_iff.mpr ⟨first, more, hanswer, hnamed⟩⟩
  · obtain ⟨first, more, hanswer, hnamed⟩ := Selection.verdict_eq_ok_iff.mp hrpm
    obtain ⟨i, hfirst, hi⟩ := Selection.candidateNamed?_eq_some_iff.mp hnamed
    have hplace := hfirst.findIdx?_sameAs hi
    rw [List.getElem?_map, Option.map_eq_some_iff] at hi
    obtain ⟨package, hpackage, rfl⟩ := hi
    refine ⟨first, more, i, package, hanswer, hfirst, hpackage, rfl, hplace, ?_⟩
    rintro n start hstart rfl
    have hchosen := chooseAmong_of_firstAt hanswer hfirst hpackage
    rw [hstart.resolveNode_eq, choose_of_two htwo, bind_apply, Progress.onSession, within_apply,
      hchosen, andThen_ok, settle_fst]

/-- Where zlib is provided by two packages whose RPMs have one path, and the first of them was there
before. -/
def dotted : Context Unit where
  cloner := .ofAnswers (fun _ => .ok ["./zlib", "zlib"]) fun _ package => .ok (package == "./zlib")
  arbiter := .ofAnswers fun _ => .ok [⟨"/out/zlib.rpm"⟩]
  manifest := .ofList ["zlib.rpm"]
  outDir := ⟨"/out"⟩
  cloneDeps := false

/-- The start of the resolution of zlib. -/
def dottedStart : Progress Unit := ⟨⟨.start ⟨∅, [], ∅⟩, ()⟩, .empty⟩

/-- The progress once both packages have been got. -/
def dottedChoice : Progress Unit :=
  (fetchMissing dotted ["./zlib", "zlib"]
    ⟨(findProviders dotted (wantedRun 0 "zlib" false)
      (begun (wantedRun 0 "zlib" false) dottedStart.session)).2, .empty⟩).2

/-- The arbiter's path is that of both, and the cache is asked about the first one, whose text the
node gets. -/
theorem consulted_dotted :
    2 ≤ ["./zlib", "zlib"].length
      ∧ (Selection.choose dotted.arbiter ⟨"zlib", none, none⟩
        [⟨"/out/./zlib.rpm"⟩, ⟨"/out/zlib.rpm"⟩] dottedChoice.session).1 = .ok ⟨"/out/./zlib.rpm"⟩
      ∧ (resolveNode dotted (wantedRun 0 "zlib" false) dottedStart).1
        = .ok ((wantedRun 0 "zlib" false).resolved ⟨"/out/./zlib.rpm"⟩ true) := by
  have htwo : 2 ≤ ["./zlib", "zlib"].length := by decide
  have hchosen : (Selection.choose dotted.arbiter ⟨"zlib", none, none⟩
      [⟨"/out/./zlib.rpm"⟩, ⟨"/out/zlib.rpm"⟩] dottedChoice.session).1
      = .ok ⟨"/out/./zlib.rpm"⟩ := rfl
  have hcomes : ComesToChoice dotted (wantedRun 0 "zlib" false) dottedStart ["./zlib", "zlib"]
      dottedChoice := ⟨rfl, _, rfl, rfl⟩
  obtain ⟨-, -, hall⟩ := @chosen_is_consulted _ dotted ⟨"zlib", none, none⟩ _ htwo dottedChoice
  obtain ⟨first, more, i, package, -, -, hi, hrpm, -, hnode⟩ := hall _ hchosen
  refine ⟨htwo, hchosen, ?_⟩
  rw [hnode _ _ hcomes rfl]
  match i, hi with
  | 0, hi => cases hi; rfl
  | 1, hi => cases hi; exact absurd hrpm (by decide +kernel)

end RpmProvision.Resolution
