/-
What is asked for one node.

The requirement of a node is looked up once. Of the packages in the answer those are asked for that
the cache does not know, each once, in the order in which they first stand there, and up to the first
one that cannot be got. The arbiter is asked only if all of them are there and there are at least two.
What was got is remembered even if the node fails, and a node that fails stays as it was.

* **`Obtains`** — packages asked for one after another, up to the first failure;
* **`Turn`** — all that is asked for a node, what is got, and the package that is chosen;
* **`resolveNode_turn`** — resolving a node is a turn;
* **`asked_in_turn`** — the same without a record of what was asked before, for every node.
-/
import RpmProvision.Proofs.Distinct
import RpmProvision.Proofs.Resolution.Choice
import RpmProvision.Proofs.Resolution.Failures

namespace RpmProvision.Resolution

open Step

variable {τ : Type}

/-- The progress with a record. -/
def Progress.withRecord (p : Progress τ) (record : List Exchange) : Progress (Recorded τ) :=
  ⟨p.session.withRecord record, p.cache⟩

/-! ### Caches -/

namespace Cache

/-- The packages of a list that have not been got yet. -/
def missing (c : Cache) (packages : List String) : List String :=
  packages.filter fun package => !c.isFetched package

/-- Remember packages, one after another. -/
def recordAll (c : Cache) (got : List (String × Bool)) : Cache :=
  got.foldl (fun c g => c.record g.1 g.2) c

theorem missing_cons_of_fetched {c : Cache} {package : String} (h : c.isFetched package = true)
    (rest : List String) : c.missing (package :: rest) = c.missing rest :=
  List.filter_cons_of_neg (by simp [h])

theorem missing_cons_of_missing {c : Cache} {package : String} (h : c.isFetched package = false)
    (rest : List String) : c.missing (package :: rest) = package :: c.missing rest :=
  List.filter_cons_of_pos (by simp [h])

/-- To remember a package does not matter to others. -/
theorem missing_record_of_not_mem (c : Cache) {package : String} (prebuilt : Bool)
    {packages : List String} (h : package ∉ packages) :
    (c.record package prebuilt).missing packages = c.missing packages := by
  refine List.filter_congr fun q hq => ?_
  have hne : q ≠ package := by
    rintro rfl
    exact h hq
  simp [isFetched_record, hne]

theorem not_isFetched_of_mem_missing {c : Cache} {packages : List String} {package : String}
    (h : package ∈ c.missing packages) : c.isFetched package = false := by
  have hmissing := (List.mem_filter.mp h).2
  simpa using hmissing

/-- If packages are remembered that the cache did not know, each once, it knows them as well as those
it knew. -/
theorem find?_recordAll {got : List (String × Bool)} (hgot : (got.map Prod.fst).Nodup) {c : Cache}
    (hnew : ∀ g ∈ got, c.flags.find? g.1 = none) {package : String} {prebuilt : Bool} :
    (c.recordAll got).flags.find? package = some prebuilt
      ↔ c.flags.find? package = some prebuilt ∨ (package, prebuilt) ∈ got := by
  induction got generalizing c with
  | nil => simp [recordAll]
  | cons g rest ih =>
    rw [List.map_cons, List.nodup_cons] at hgot
    have hne : ∀ g' ∈ rest, g'.1 ≠ g.1 := fun g' hg' heq =>
      hgot.1 (heq ▸ List.mem_map_of_mem hg')
    have hrest : ∀ g' ∈ rest, (c.record g.1 g.2).flags.find? g'.1 = none := by
      intro g' hg'
      rw [record, SortedMap.find?_insert_of_ne _ _ (hne g' hg')]
      exact hnew g' (List.mem_cons_of_mem g hg')
    rw [recordAll, List.foldl_cons]
    change ((c.record g.1 g.2).recordAll rest).flags.find? package = some prebuilt ↔ _
    rw [ih hgot.2 hrest, record, List.mem_cons]
    by_cases hp : package = g.1
    · subst hp
      simp [hnew g List.mem_cons_self, Prod.ext_iff, eq_comm]
    · rw [SortedMap.find?_insert_of_ne _ _ hp]
      simp [Prod.ext_iff, hp]

end Cache

/-! ### Packages one after another -/

/-- Requests for packages that are all got. -/
def gets (deps : Bool) (got : List (String × Bool)) : List Exchange :=
  got.map fun g => .clone deps g.1 (.ok g.2)

/-- Packages are asked for one after another, all of them or up to the first that cannot be got. -/
inductive Obtains (deps : Bool) (missing : List String) :
    List (String × Bool) → List Exchange → Except Error Unit → Prop
  | all {got : List (String × Bool)} (hgot : got.map Prod.fst = missing) :
      Obtains deps missing got (gets deps got) (.ok ())
  | upTo {got : List (String × Bool)} {package : String} {rest : List String} {e : Error}
      (hgot : got.map Prod.fst ++ package :: rest = missing) :
      Obtains deps missing got (gets deps got ++ [.clone deps package (.error e)])
        (.error (fetchError package e))

namespace Obtains

variable {deps : Bool} {missing : List String} {got : List (String × Bool)} {asked : List Exchange}
  {result : Except Error Unit}

/-- A package that is got comes before the others. -/
theorem cons (h : Obtains deps missing got asked result) (package : String) (prebuilt : Bool) :
    Obtains deps (package :: missing) ((package, prebuilt) :: got)
      (.clone deps package (.ok prebuilt) :: asked) result := by
  cases h with
  | all hgot => exact .all (by rw [List.map_cons, hgot])
  | @upTo failing rest e hgot =>
    have hgot' : ((package, prebuilt) :: got).map Prod.fst ++ failing :: rest
        = package :: missing := by
      rw [List.map_cons, List.cons_append, hgot]
    exact .upTo hgot'

/-- What is got are the first of the packages. -/
theorem isPrefix_missing (h : Obtains deps missing got asked result) : got.map Prod.fst <+: missing := by
  cases h with
  | all hgot => rw [hgot]
  | upTo hgot => exact ⟨_, hgot⟩

/-- The packages that are got are those whose requests succeed. -/
theorem mem_asked_iff (h : Obtains deps missing got asked result) {deps' : Bool} {package : String}
    {prebuilt : Bool} : .clone deps' package (.ok prebuilt) ∈ asked ↔
      deps' = deps ∧ (package, prebuilt) ∈ got := by
  cases h <;> simp [gets, eq_comm, and_left_comm]

theorem cloned_asked (h : Obtains deps missing got asked result) :
    cloned asked = got.map Prod.fst := by
  have hgets : cloned (gets deps got) = got.map Prod.fst := by
    rw [cloned, gets, List.filterMap_map, ← @List.filterMap_eq_map _ _ Prod.fst]
    rfl
  cases h with
  | all hgot => exact hgets
  | upTo hgot =>
    rw [cloned_append, hgets]
    exact List.append_nil _

end Obtains

/-- The packages of a list that have not been got yet are asked for one after another, and those that
are got are remembered, also if one cannot be got. -/
theorem fetchMissing_obtains (ctx : Context τ) {packages : List String} (h : packages.Nodup)
    (p : Progress (Recorded τ)) :
    ∃ got asked, Obtains ctx.cloneDeps (p.cache.missing packages) got asked
        (fetchMissing ctx.recorded packages p).1
      ∧ (fetchMissing ctx.recorded packages p).2.record = p.record ++ asked
      ∧ (fetchMissing ctx.recorded packages p).2.cache = p.cache.recordAll got := by
  induction packages generalizing p with
  | nil => exact ⟨[], [], .all rfl, (List.append_nil _).symm, rfl⟩
  | cons package rest ih =>
    obtain ⟨hnew, hrest⟩ := List.nodup_cons.mp h
    cases hgot : p.cache.isFetched package with
    | true =>
      rw [fetchMissing_of_fetched hgot, Cache.missing_cons_of_fetched hgot]
      exact ih hrest p
    | false =>
      rw [fetchMissing_of_missing hgot, Cache.missing_cons_of_missing hgot]
      rcases hclone : ctx.recorded.cloner.clonePackage ctx.cloneDeps package p.session
        with ⟨e | prebuilt, s⟩
      · rw [fetch_of_error hclone]
        exact ⟨[], _, .upTo rfl, Cloner.record_clonePackage hclone, rfl⟩
      · obtain ⟨e, hfetch⟩ := fetch_of_ok hclone
        rw [hfetch, andThen_ok]
        obtain ⟨got, asked, hall, hrecord, hcache⟩ :=
          ih hrest ⟨⟨s.world.record e, s.agent⟩, p.cache.record package prebuilt⟩
        -- the package does not stand in the rest, so the same packages are still missing there
        rw [Cache.missing_record_of_not_mem _ _ hnew] at hall
        refine ⟨(package, prebuilt) :: got, _, hall.cons package prebuilt, ?_, hcache⟩
        rw [hrecord]
        show s.record ++ asked = p.session.record ++ _
        rw [Cloner.record_clonePackage hclone, List.append_assoc]
        rfl

/-! ### One node -/

theorem eraseDups_cases {α : Type} [BEq α] [LawfulBEq α] {l : List α} (hne : l ≠ []) :
    (∃ a, l.eraseDups = [a]) ∨ 2 ≤ l.eraseDups.length := by
  match h : l.eraseDups with
  | [] =>
    obtain ⟨a, rest, rfl⟩ := List.exists_cons_of_ne_nil hne
    simp [List.eraseDups_cons] at h
  | [a] => exact .inl ⟨a, rfl⟩
  | a :: b :: rest => exact .inr (by simp)

/-- All that is asked for a node that wants an RPM, the packages that are got, and the package whose
RPM the node is to have. The arbiter is asked last, and only if there is something to choose. -/
inductive Turn (ctx : Context τ) (c : Cache) (n : Node) :
    List Exchange → List (String × Bool) → Except Error String → Prop
  | unprovided {answer : Except Error (List String)} {e : Error}
      (hfound : found n.requirement answer = .error e) :
      Turn ctx c n [.lookup n.requirement answer] [] (.error e)
  | ungot {packages : List String} {got : List (String × Bool)} {asked : List Exchange} {e : Error}
      (hne : packages ≠ [])
      (hgot : Obtains ctx.cloneDeps (c.missing packages.eraseDups) got asked (.error e)) :
      Turn ctx c n (.lookup n.requirement (.ok packages) :: asked) got (.error e)
  | single {packages : List String} {got : List (String × Bool)} {asked : List Exchange}
      {package : String} (hone : packages.eraseDups = [package])
      (hgot : Obtains ctx.cloneDeps (c.missing packages.eraseDups) got asked (.ok ())) :
      Turn ctx c n (.lookup n.requirement (.ok packages) :: asked) got (.ok package)
  | judged {packages : List String} {got : List (String × Bool)} {asked : List Exchange}
      {answer : Except Error (List Path)} {chosen : Except Error String}
      (htwo : 2 ≤ packages.eraseDups.length)
      (hgot : Obtains ctx.cloneDeps (c.missing packages.eraseDups) got asked (.ok ()))
      (hchosen : Prefers ctx.outDir n.requirement packages.eraseDups answer chosen) :
      Turn ctx c n (.lookup n.requirement (.ok packages) :: asked
        ++ [.judge (packages.eraseDups.map (rpmPath · ctx.outDir)) answer]) got chosen

/-- How dealing with a node ends: with the chosen RPM or in the error, after what was asked, and with
the packages that were got in the cache. -/
structure Leaves (ctx : Context τ) (n : Node) (p : Progress (Recorded τ)) (asked : List Exchange)
    (got : List (String × Bool)) (chosen : Except Error String)
    (r : Except Error Node × Progress (Recorded τ)) : Prop where
  result : r.1 = chosen.map fun package => n.resolved (rpmPath package ctx.outDir)
    (ctx.manifest.isPrebuiltToolchain (rpmPath package ctx.outDir)
      ((p.cache.recordAll got).isPrebuilt package))
  record : r.2.record = p.record ++ asked
  cache : r.2.cache = p.cache.recordAll got

/-- The arbiter is asked once, and a package is chosen as it prefers. -/
theorem chooseAmong_judged (ctx : Context τ) (r : Requirement) (packages : List String)
    (s : Session (Recorded τ)) :
    ∃ answer chosen, Prefers ctx.outDir r packages answer chosen
      ∧ (chooseAmong ctx.recorded r (candidates ctx.outDir packages) s).1
        = chosen.map (fun package => ⟨package, rpmPath package ctx.outDir⟩)
      ∧ (chooseAmong ctx.recorded r (candidates ctx.outDir packages) s).2.record
        = s.record ++ [.judge (packages.map (rpmPath · ctx.outDir)) answer] := by
  obtain ⟨chosen, hprefers, hresult⟩ := chooseAmong_prefers ctx.recorded r packages s
  refine ⟨_, chosen, hprefers, hresult, ?_⟩
  rw [(errorOf_chooseAmong ctx.recorded r _ s).2, candidates_map_rpm]
  exact Selection.choose_record ctx.arbiter r _ s

/-- Settling on a choice, whatever was asked to come to it. -/
theorem leaves_of_choice {ctx : Context τ} {n : Node} {p p₁ : Progress (Recorded τ)}
    {asked : List Exchange} {got : List (String × Bool)} {chosen : Except Error String}
    {x : Step (Session (Recorded τ)) Error Candidate}
    (hchosen : (x p₁.session).1
      = chosen.map fun package => ⟨package, rpmPath package ctx.outDir⟩)
    (hrecord : (x p₁.session).2.record = p.record ++ asked)
    (hcache : p₁.cache = p.cache.recordAll got) :
    Leaves ctx n p asked got chosen
      ((Progress.onSession x >>= fun c => settle ctx.recorded n c) p₁) := by
  rw [bind_apply, Progress.onSession, within_apply, hchosen]
  cases chosen with
  | error e => exact ⟨rfl, hrecord, hcache⟩
  | ok package =>
    refine ⟨?_, ?_, ?_⟩
    · show (settle ctx.recorded n _ _).1 = _
      rw [settle_fst, ← hcache]
      rfl
    · show (settle ctx.recorded n _ _).2.record = _
      rw [settle_record]
      exact hrecord
    · show (settle ctx.recorded n _ _).2.cache = _
      rw [settle_cache]
      exact hcache

/-- What is done for a node once its requirement has been looked up. -/
theorem resolveFrom_turn (ctx : Context τ) (n : Node) {packages : List String} (hne : packages ≠ [])
    (p : Progress (Recorded τ)) :
    ∃ asked got chosen, Turn ctx p.cache n (.lookup n.requirement (.ok packages) :: asked) got chosen
      ∧ Leaves ctx n p asked got chosen (resolveFrom ctx.recorded n packages.eraseDups p) := by
  obtain ⟨got, asked, hall, hrecord, hcache⟩ :=
    fetchMissing_obtains ctx (nodup_eraseDups packages) p
  rw [resolveFrom, bind_apply]
  rcases hfetch : fetchMissing ctx.recorded packages.eraseDups p with ⟨e | ⟨⟩, p₁⟩ <;>
    rw [hfetch] at hall hrecord hcache
  · exact ⟨asked, got, .error e, .ungot hne hall, ⟨rfl, hrecord, hcache⟩⟩
  · rw [andThen_ok]
    rcases eraseDups_cases hne with ⟨package, hone⟩ | htwo
    · refine ⟨asked, got, .ok package, .single hone hall, ?_⟩
      rw [hone]
      exact leaves_of_choice rfl hrecord hcache
    · obtain ⟨answer, chosen, hprefers, hchosen, hjudged⟩ :=
        chooseAmong_judged ctx n.requirement packages.eraseDups p₁.session
      refine ⟨_, got, chosen, .judged htwo hall hprefers, ?_⟩
      rw [choose_of_two htwo]
      refine leaves_of_choice hchosen (hjudged.trans ?_) hcache
      show p₁.record ++ _ = p.record ++ (asked ++ _)
      rw [← List.append_assoc]
      exact congrArg (· ++ _) hrecord

/-- Resolving a node that wants an RPM is a turn. -/
theorem resolveNode_turn (ctx : Context τ) {n : Node} (hn : n.state = .unresolved)
    (p : Progress (Recorded τ)) :
    ∃ asked got chosen, Turn ctx p.cache n asked got chosen
      ∧ Leaves ctx n p asked got chosen (resolveNode ctx.recorded n p) := by
  obtain ⟨answer, ha⟩ : ∃ answer, answer = (ctx.recorded.cloner.whatProvides n.requirement
    (announced n (begun n p.session))).1 := ⟨_, rfl⟩
  have hfst := findProviders_fst ctx.recorded n (begun n p.session)
  have hrec := findProviders_record ctx n (begun n p.session)
  rw [← ha] at hfst hrec
  change (findProviders ctx.recorded n (begun n p.session)).2.record = p.record ++ _ at hrec
  rw [resolveNode_of_unresolved _ hn, hfst]
  cases hfound : found n.requirement answer with
  | error e => exact ⟨_, [], .error e, .unprovided hfound, ⟨rfl, hrec, rfl⟩⟩
  | ok providers =>
    obtain ⟨packages, rfl, rfl⟩ := found_eq_ok hfound
    have hne : packages ≠ [] := by
      rintro rfl
      cases hfound
    rw [andThen_ok]
    obtain ⟨asked, got, chosen, hturn, hleaves⟩ := resolveFrom_turn ctx n hne
      ⟨(findProviders ctx.recorded n (begun n p.session)).2, p.cache⟩
    refine ⟨_, got, chosen, hturn, ⟨hleaves.result, ?_, hleaves.cache⟩⟩
    rw [hleaves.record]
    change (findProviders ctx.recorded n (begun n p.session)).2.record ++ asked = _
    rw [hrec, List.append_assoc]
    rfl

namespace Turn

variable {ctx : Context τ} {c : Cache} {n : Node} {asked : List Exchange}
  {got : List (String × Bool)} {chosen : Except Error String}

/-- What is got in a turn was missing, and each package is got once. -/
theorem got_missing (h : Turn ctx c n asked got chosen) :
    ∃ packages : List String, got.map Prod.fst <+: c.missing packages.eraseDups := by
  cases h with
  | unprovided hfound => exact ⟨[], List.nil_prefix⟩
  | ungot hne hgot => exact ⟨_, hgot.isPrefix_missing⟩
  | single hone hgot => exact ⟨_, hgot.isPrefix_missing⟩
  | judged htwo hgot hchosen => exact ⟨_, hgot.isPrefix_missing⟩

theorem nodup_got (h : Turn ctx c n asked got chosen) : (got.map Prod.fst).Nodup := by
  obtain ⟨packages, hfirst⟩ := h.got_missing
  exact ((nodup_eraseDups packages).filter _).sublist hfirst.sublist

theorem find?_of_mem_got (h : Turn ctx c n asked got chosen) :
    ∀ g ∈ got, c.flags.find? g.1 = none := by
  obtain ⟨packages, hfirst⟩ := h.got_missing
  intro g hg
  have hmissing := Cache.not_isFetched_of_mem_missing
    (hfirst.subset (List.mem_map_of_mem hg))
  rw [Cache.isFetched, SortedMap.contains] at hmissing
  exact Option.not_isSome_iff_eq_none.mp (by rw [hmissing]; decide)

/-- What is got in a turn is what is asked for with success. -/
theorem mem_asked_iff (h : Turn ctx c n asked got chosen) {deps : Bool} {package : String}
    {prebuilt : Bool} : .clone deps package (.ok prebuilt) ∈ asked ↔
      deps = ctx.cloneDeps ∧ (package, prebuilt) ∈ got := by
  cases h with
  | unprovided hfound => simp
  | ungot hne hgot => simp [hgot.mem_asked_iff]
  | single hone hgot => simp [hgot.mem_asked_iff]
  | judged htwo hgot hchosen => simp [hgot.mem_asked_iff]

theorem cloned_asked (h : Turn ctx c n asked got chosen) : cloned asked = got.map Prod.fst := by
  cases h with
  | unprovided hfound => rfl
  | ungot hne hgot => exact hgot.cloned_asked
  | single hone hgot => exact hgot.cloned_asked
  | judged htwo hgot hchosen =>
    rw [cloned_append]
    exact (List.append_nil _).trans hgot.cloned_asked

/-- After a turn the cache knows what it knew, and what was got. -/
theorem find?_recordAll_iff (h : Turn ctx c n asked got chosen) {package : String}
    {prebuilt : Bool} : (c.recordAll got).flags.find? package = some prebuilt ↔
      c.flags.find? package = some prebuilt
        ∨ .clone ctx.cloneDeps package (.ok prebuilt) ∈ asked := by
  rw [Cache.find?_recordAll h.nodup_got h.find?_of_mem_got, h.mem_asked_iff]
  simp

/-- A package that is chosen is in the cache after the turn. -/
theorem exists_find?_of_ok {package : String} (h : Turn ctx c n asked got (.ok package)) :
    ∃ prebuilt, (c.recordAll got).flags.find? package = some prebuilt := by
  have hall {packages : List String} {asked : List Exchange}
      (hgot : Obtains ctx.cloneDeps (c.missing packages) got asked (.ok ()))
      (hmem : package ∈ packages) :
      ∃ prebuilt, (c.recordAll got).flags.find? package = some prebuilt := by
    simp only [Cache.find?_recordAll h.nodup_got h.find?_of_mem_got, exists_or]
    cases hfetched : c.isFetched package with
    | true => exact .inl (Option.isSome_iff_exists.mp hfetched)
    | false =>
      have hmissing : package ∈ c.missing packages :=
        List.mem_filter.mpr ⟨hmem, by rw [hfetched]; rfl⟩
      cases hgot with
      | all hnames =>
        rw [← hnames] at hmissing
        obtain ⟨g, hg, rfl⟩ := List.mem_map.mp hmissing
        exact .inr ⟨g.2, hg⟩
  cases h with
  | single hone hgot => exact hall hgot (by rw [hone]; exact List.mem_singleton_self _)
  | judged htwo hgot hchosen =>
    cases hchosen with
    | takes hfirst hpackage => exact hall hgot (List.mem_of_getElem? hpackage)

end Turn

/-- If a node fails, the graph stays as it is. -/
theorem graph_resolveAt_of_error {ctx : Context τ} {n : Node} {e : Error} {p : Progress τ}
    (h : (resolveNode ctx n p).1 = .error e) (g : Graph) (id : NodeId) :
    (resolveAt ctx id n ⟨g, p⟩).2.graph = g := by
  have hrun : resolveNode ctx n p = (.error e, (resolveNode ctx n p).2) := Prod.ext h rfl
  rw [resolveAt_of_error hrun]
  cases he : e.isFatal with
  | true => rw [fail_of_isFatal he]
  | false =>
    obtain ⟨w, hw⟩ := fail_of_not_isFatal he id n ⟨g, (resolveNode ctx n p).2⟩
    rw [hw]

/-- What is asked for a node. -/
def asked (ctx : Context τ) (n : Node) (p : Progress τ) : List Exchange :=
  (resolveNode ctx.recorded n (p.withRecord [])).2.record

theorem resolveNode_withRecord (ctx : Context τ) (n : Node) (p : Progress τ) :
    resolveNode ctx.recorded n (p.withRecord [])
      = ((resolveNode ctx n p).1, (resolveNode ctx n p).2.withRecord (asked ctx n p)) := by
  have hmirror := (ctx.lifts_recorded.resolveNode n).run_forget (p.withRecord [])
  change resolveNode ctx n p = ((resolveNode ctx.recorded n (p.withRecord [])).1,
    (resolveNode ctx.recorded n (p.withRecord [])).2.forget) at hmirror
  rw [hmirror]
  rfl

/-- For a node that wants an RPM what is asked is a turn, and it decides the rest. -/
theorem turn_asked (ctx : Context τ) {n : Node} (hn : n.state = .unresolved) (p : Progress τ) :
    ∃ got chosen, Turn ctx p.cache n (asked ctx n p) got chosen
      ∧ (resolveNode ctx n p).1 = chosen.map (fun package =>
        n.resolved (rpmPath package ctx.outDir)
          (ctx.manifest.isPrebuiltToolchain (rpmPath package ctx.outDir)
            ((p.cache.recordAll got).isPrebuilt package)))
      ∧ (resolveNode ctx n p).2.cache = p.cache.recordAll got := by
  obtain ⟨l, got, chosen, hturn, hleaves⟩ := resolveNode_turn ctx hn (p.withRecord [])
  rw [resolveNode_withRecord] at hleaves
  have hasked : asked ctx n p = l := hleaves.record
  exact ⟨got, chosen, hasked ▸ hturn, hleaves.result, hleaves.cache⟩

/-- A node that comes out has the RPM of the package chosen in its turn, and is from the toolchain as
the cache knows of this package. -/
theorem turn_of_ok {ctx : Context τ} {n n' : Node} {p : Progress τ}
    (h : (resolveNode ctx n p).1 = .ok n') :
    ∃ got package prebuilt, Turn ctx p.cache n (asked ctx n p) got (.ok package)
      ∧ (p.cache.recordAll got).flags.find? package = some prebuilt
      ∧ n' = n.resolved (rpmPath package ctx.outDir)
        (ctx.manifest.isPrebuiltToolchain (rpmPath package ctx.outDir) prebuilt) := by
  have hrun : resolveNode ctx n p = (.ok n', (resolveNode ctx n p).2) := Prod.ext h rfl
  obtain ⟨got, chosen, hturn, hresult, -⟩ := turn_asked ctx (resolveNode_eq_ok hrun).1 p
  rw [h] at hresult
  match chosen, hresult with
  | .ok package, hresult =>
    obtain ⟨prebuilt, hfind⟩ := hturn.exists_find?_of_ok
    have hprebuilt : (p.cache.recordAll got).isPrebuilt package = prebuilt := by
      rw [Cache.isPrebuilt, hfind, Option.getD_some]
    refine ⟨got, package, prebuilt, hturn, hfind, ?_⟩
    rw [← hprebuilt]
    exact Except.ok.inj hresult

/-- For another node nothing is asked, and nothing changes. -/
theorem asked_of_resolved (ctx : Context τ) {n : Node} (hn : n.state ≠ .unresolved)
    (p : Progress τ) :
    asked ctx n p = []
      ∧ resolveNode ctx n p = (.error (GraphFault.notUnresolved n).toError, p) := by
  rw [asked, resolveNode_of_resolved _ hn, resolveNode_of_resolved _ hn]
  exact ⟨rfl, rfl⟩

/-- For a node that wants an RPM all that is asked is a turn, and afterwards the cache knows what it
knew and what was got in the turn, however it ends. For another node nothing is asked and nothing
changes. A node that fails stays in the graph as it is. -/
theorem asked_in_turn (ctx : Context τ) (n : Node) (p : Progress τ) :
    resolveNode ctx.recorded n (p.withRecord [])
        = ((resolveNode ctx n p).1, (resolveNode ctx n p).2.withRecord (asked ctx n p))
      ∧ (n.state = .unresolved → ∃ got chosen, Turn ctx p.cache n (asked ctx n p) got chosen
        ∧ (∀ e, (resolveNode ctx n p).1 = .error e ↔ chosen = .error e)
        ∧ ∀ package prebuilt, (resolveNode ctx n p).2.cache.flags.find? package = some prebuilt ↔
          p.cache.flags.find? package = some prebuilt
            ∨ .clone ctx.cloneDeps package (.ok prebuilt) ∈ asked ctx n p)
      ∧ (n.state ≠ .unresolved → asked ctx n p = [] ∧ ∃ e, resolveNode ctx n p = (.error e, p))
      ∧ ∀ e, (resolveNode ctx n p).1 = .error e → ∀ g id,
        (resolveAt ctx id n ⟨g, p⟩).2.graph = g := by
  refine ⟨resolveNode_withRecord ctx n p, fun hn => ?_, fun hn => ?_,
    fun e he => graph_resolveAt_of_error he⟩
  · obtain ⟨got, chosen, hturn, hresult, hcache⟩ := turn_asked ctx hn p
    refine ⟨got, chosen, hturn, fun e => ?_, fun package prebuilt => ?_⟩
    · rw [hresult]
      cases chosen <;> simp [Except.map]
    · rw [hcache]
      exact hturn.find?_recordAll_iff
  · obtain ⟨hasked, hrun⟩ := asked_of_resolved ctx hn p
    exact ⟨hasked, _, hrun⟩

/-- For zlib four things are asked where two packages have RPMs of one path, and the cache knows both
answers afterwards. -/
theorem asked_dotted :
    asked dotted (wantedRun 0 "zlib" false) dottedStart
        = [.lookup ⟨"zlib", none, none⟩ (.ok ["./zlib", "zlib"]),
          .clone false "./zlib" (.ok true), .clone false "zlib" (.ok false),
          .judge [⟨"/out/./zlib.rpm"⟩, ⟨"/out/zlib.rpm"⟩] (.ok [⟨"/out/zlib.rpm"⟩])]
      ∧ ∀ package prebuilt,
        (resolveNode dotted (wantedRun 0 "zlib" false) dottedStart).2.cache.flags.find? package
            = some prebuilt
          ↔ dottedStart.cache.flags.find? package = some prebuilt
            ∨ .clone false package (.ok prebuilt)
              ∈ asked dotted (wantedRun 0 "zlib" false) dottedStart := by
  obtain ⟨-, hturn, -⟩ := asked_in_turn dotted (wantedRun 0 "zlib" false) dottedStart
  obtain ⟨got, chosen, -, -, hcache⟩ := hturn rfl
  exact ⟨rfl, hcache⟩

end RpmProvision.Resolution
