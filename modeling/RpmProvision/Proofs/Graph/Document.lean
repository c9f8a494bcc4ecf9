/-
The written form of a graph is read back as the same nodes and edges.

Nodes and edges are shown by many documents, of which one is written. All of them are read alike, and
no others are read.

* **`Requirement.Shown`**, **`Node.Shown`**, **`Graph.Shown`** — the documents that show something;
* **`Node.ofJson?_eq_some_iff`** — a node is read from the documents that show it;
* **`listsOfJson?_eq_some_iff`** — and so are nodes and edges;
* **`parse_eq_ok_iff_shown`** — so a graph is read from the texts of these documents;
* **`parse_render`** — the text of a graph leads to the graph that is built from its nodes and edges.
-/
import RpmProvision.Proofs.Json.Fields

namespace RpmProvision

open Json

theorem Path.ofJson?_eq_some_iff {v : Json} {p : Path} : ofJson? v = some p ↔ v = p.toJson := by
  rw [ofJson?, Option.map_eq_some_iff]
  constructor
  · rintro ⟨s, hs, rfl⟩
    exact text?_eq_some_iff.mp hs
  · rintro rfl
    exact ⟨p.text, rfl, rfl⟩

/-! ### Requirements, states and kinds -/

namespace Requirement

/-- The fields of a requirement's document. -/
def fields (r : Requirement) : List (String × Option Json) :=
  [("name", some (.ofText r.name)), ("condition", r.condition.map .ofText),
    ("version", r.version.map .ofText)]

theorem toJson_eq (r : Requirement) : r.toJson = .record (written r.fields) := by
  rw [toJson, memberIfPresent_eq, memberIfPresent_eq, List.append_assoc, ← written_append]
  rfl

/-- The documents that show a requirement. -/
inductive Shown (r : Requirement) : Json → Prop where
  | fields {condition version : Option Json} {v : Json}
      (hcondition : ShowsOptional .ofText r.condition condition)
      (hversion : ShowsOptional .ofText r.version version)
      (h : Shows [("name", some (.ofText r.name)), ("condition", condition), ("version", version)]
        v) : Shown r v

theorem shown_toJson (r : Requirement) : r.Shown r.toJson := by
  rw [toJson_eq]
  exact .fields (showsOptional_map _ _) (showsOptional_map _ _) (shows_written _)

theorem fields?_iff {name condition version : Option Json} {v : Json} :
    v.fields? ["name", "condition", "version"] = some [name, condition, version] ↔
      Shows [("name", name), ("condition", condition), ("version", version)] v := by
  have hnames : ["name", "condition", "version"].Nodup := by decide
  exact @fields?_eq_some_iff v [("name", name), ("condition", condition), ("version", version)] hnames

/-- A requirement is read from the documents that show it, and from no others. -/
theorem ofJson?_eq_some_iff {r : Requirement} {v : Json} : ofJson? v = some r ↔ r.Shown v := by
  constructor
  · intro h
    obtain ⟨values, hfields, h⟩ := Option.bind_eq_some_iff.mp h
    split at h
    · obtain ⟨name, hname, h⟩ := Option.bind_eq_some_iff.mp h
      obtain ⟨condition, hcondition, h⟩ := Option.bind_eq_some_iff.mp h
      obtain ⟨version, hversion, h⟩ := Option.bind_eq_some_iff.mp h
      cases h
      obtain ⟨w, rfl, hw⟩ := Option.bind_eq_some_iff.mp hname
      cases text?_eq_some_iff.mp hw
      exact .fields (optional?_text?_iff.mp hcondition) (optional?_text?_iff.mp hversion)
        (fields?_iff.mp hfields)
    · cases h
  · rintro @⟨condition, version, v, hcondition, hversion, h⟩
    rw [ofJson?, fields?_iff.mpr h]
    show (do
      let name ← some r.name
      let condition ← optional? text? condition
      let version ← optional? text? version
      some (⟨name, condition, version⟩ : Requirement)) = some r
    rw [optional?_text?_iff.mpr hcondition, optional?_text?_iff.mpr hversion]
    rfl

theorem plain_toJson (r : Requirement) : Plain r.toJson := by
  rw [toJson_eq]
  refine plain_written fun f hf v hv => ?_
  simp only [fields, List.mem_cons, List.not_mem_nil, or_false] at hf
  rcases hf with rfl | rfl | rfl
  · cases hv
    exact plain_ofText _
  all_goals
    obtain ⟨s, -, rfl⟩ := Option.map_eq_some_iff.mp hv
    exact plain_ofText s

end Requirement

theorem NodeState.ofName?_eq_some_iff {name : String} {s : NodeState} :
    ofName? name = some s ↔ name = s.name := by
  constructor
  · intro h
    rw [ofName?] at h
    simpa [eq_comm] using List.find?_some h
  · rintro rfl
    cases s <;> rfl

theorem NodeKind.ofName?_eq_some_iff {name : String} {k : NodeKind} :
    ofName? name = some k ↔ name = k.name := by
  constructor
  · intro h
    rw [ofName?] at h
    simpa [eq_comm] using List.find?_some h
  · rintro rfl
    cases k <;> rfl

/-! ### Nodes and edges -/

namespace Node

/-- The fields of a node's document. -/
def fields (n : Node) : List (String × Option Json) :=
  [("id", some (Json.ofWord64 n.id)), ("pkg", some n.requirement.toJson),
    ("state", some (.ofText n.state.name)), ("type", some (.ofText n.kind.name)),
    ("implicit", some (.bool n.implicit)), ("rpm_path", n.rpmPath.map Path.toJson),
    ("srpm_path", n.srpmPath.map Path.toJson), ("spec_path", n.specPath.map Path.toJson),
    ("architecture", n.architecture.map .ofText), ("source_repo", n.sourceRepo.map .ofText)]

theorem toJson_eq (n : Node) : n.toJson = .record (written n.fields) := by
  rw [toJson]
  simp only [memberIfPresent_eq, List.append_assoc, ← written_append]
  rfl

/-- The documents that show a node. -/
inductive Shown (n : Node) : Json → Prop where
  | fields {requirement state kind v : Json} {implicit rpm srpm spec architecture source : Option Json}
      (hrequirement : n.requirement.Shown requirement) (hstate : ShowsVariant n.state.name state)
      (hkind : ShowsVariant n.kind.name kind) (himplicit : ShowsFlag n.implicit implicit)
      (hrpm : ShowsOptional Path.toJson n.rpmPath rpm)
      (hsrpm : ShowsOptional Path.toJson n.srpmPath srpm)
      (hspec : ShowsOptional Path.toJson n.specPath spec)
      (harchitecture : ShowsOptional .ofText n.architecture architecture)
      (hsource : ShowsOptional .ofText n.sourceRepo source)
      (h : Shows [("id", some (Json.ofWord64 n.id)), ("pkg", some requirement),
        ("state", some state), ("type", some kind), ("implicit", implicit), ("rpm_path", rpm),
        ("srpm_path", srpm), ("spec_path", spec), ("architecture", architecture),
        ("source_repo", source)] v) : Shown n v

theorem shown_toJson (n : Node) : n.Shown n.toJson := by
  rw [toJson_eq]
  exact .fields n.requirement.shown_toJson .name .name (.written _) (showsOptional_map _ _)
    (showsOptional_map _ _) (showsOptional_map _ _) (showsOptional_map _ _) (showsOptional_map _ _)
    (shows_written _)

theorem fields?_iff {id requirement state kind implicit rpm srpm spec architecture source : Option Json}
    {v : Json} :
    v.fields? fieldNames = some [id, requirement, state, kind, implicit, rpm, srpm, spec,
        architecture, source] ↔
      Shows [("id", id), ("pkg", requirement), ("state", state), ("type", kind),
        ("implicit", implicit), ("rpm_path", rpm), ("srpm_path", srpm), ("spec_path", spec),
        ("architecture", architecture), ("source_repo", source)] v := by
  have hnames : fieldNames.Nodup := by decide
  exact @fields?_eq_some_iff v [("id", id), ("pkg", requirement), ("state", state), ("type", kind),
    ("implicit", implicit), ("rpm_path", rpm), ("srpm_path", srpm), ("spec_path", spec),
    ("architecture", architecture), ("source_repo", source)] hnames

theorem state?_iff {w : Json} {s : NodeState} :
    w.variant?.bind NodeState.ofName? = some s ↔ ShowsVariant s.name w := by
  simp only [Option.bind_eq_some_iff, variant?_eq_some_iff, NodeState.ofName?_eq_some_iff,
    exists_eq_right]

theorem kind?_iff {w : Json} {k : NodeKind} :
    w.variant?.bind NodeKind.ofName? = some k ↔ ShowsVariant k.name w := by
  simp only [Option.bind_eq_some_iff, variant?_eq_some_iff, NodeKind.ofName?_eq_some_iff,
    exists_eq_right]

theorem optional?_path?_iff {value : Option Path} {field : Option Json} :
    optional? Path.ofJson? field = some value ↔ ShowsOptional Path.toJson value field :=
  optional?_eq_some_iff Path.ofJson?_eq_some_iff fun p => ofText_ne_null p.text

/-- A node is read from the documents that show it, and from no others. -/
theorem ofJson?_eq_some_iff {n : Node} {v : Json} (hv : Formed v) :
    ofJson? v = some n ↔ n.Shown v := by
  constructor
  · intro h
    obtain ⟨values, hfields, h⟩ := Option.bind_eq_some_iff.mp h
    split at h
    · obtain ⟨id, hid, h⟩ := Option.bind_eq_some_iff.mp h
      obtain ⟨requirement, hrequirement, h⟩ := Option.bind_eq_some_iff.mp h
      obtain ⟨state, hstate, h⟩ := Option.bind_eq_some_iff.mp h
      obtain ⟨kind, hkind, h⟩ := Option.bind_eq_some_iff.mp h
      obtain ⟨implicit, himplicit, h⟩ := Option.bind_eq_some_iff.mp h
      obtain ⟨rpmPath, hrpm, h⟩ := Option.bind_eq_some_iff.mp h
      obtain ⟨srpmPath, hsrpm, h⟩ := Option.bind_eq_some_iff.mp h
      obtain ⟨specPath, hspec, h⟩ := Option.bind_eq_some_iff.mp h
      obtain ⟨architecture, harchitecture, h⟩ := Option.bind_eq_some_iff.mp h
      obtain ⟨sourceRepo, hsource, h⟩ := Option.bind_eq_some_iff.mp h
      cases h
      -- the four fields that must be there
      obtain ⟨w, rfl, hw⟩ := Option.bind_eq_some_iff.mp hid
      obtain ⟨_, rfl, hrequirement⟩ := Option.bind_eq_some_iff.mp hrequirement
      obtain ⟨_, rfl, hstate⟩ := Option.bind_eq_some_iff.mp hstate
      obtain ⟨_, rfl, hkind⟩ := Option.bind_eq_some_iff.mp hkind
      have hshows := fields?_iff.mp hfields
      have hw' : Formed w := hshows.formed hv List.mem_cons_self
      cases (word64?_eq_some_iff hw').mp hw
      exact .fields (Requirement.ofJson?_eq_some_iff.mp hrequirement) (state?_iff.mp hstate)
        (kind?_iff.mp hkind) (defaulted?_eq_some_iff.mp himplicit) (optional?_path?_iff.mp hrpm)
        (optional?_path?_iff.mp hsrpm) (optional?_path?_iff.mp hspec)
        (optional?_text?_iff.mp harchitecture)
        (optional?_text?_iff.mp hsource) hshows
    · cases h
  · rintro @⟨requirement, state, kind, v, implicit, rpm, srpm, spec, architecture, source,
      hrequirement, hstate, hkind, himplicit, hrpm, hsrpm, hspec, harchitecture, hsource, h⟩
    rw [ofJson?, fields?_iff.mpr h]
    show (do
      let id ← word64? (Json.ofWord64 n.id)
      let requirement ← Requirement.ofJson? requirement
      let state ← (variant? state).bind NodeState.ofName?
      let kind ← (variant? kind).bind NodeKind.ofName?
      let implicit ← defaulted? false bool? implicit
      let rpmPath ← optional? Path.ofJson? rpm
      let srpmPath ← optional? Path.ofJson? srpm
      let specPath ← optional? Path.ofJson? spec
      let architecture ← optional? text? architecture
      let sourceRepo ← optional? text? source
      some ({ id, requirement, state, kind, implicit, rpmPath, srpmPath, specPath, architecture,
              sourceRepo } : Node)) = some n
    rw [word64?_ofWord64, Requirement.ofJson?_eq_some_iff.mpr hrequirement, state?_iff.mpr hstate,
      kind?_iff.mpr hkind, defaulted?_eq_some_iff.mpr himplicit, optional?_path?_iff.mpr hrpm,
      optional?_path?_iff.mpr hsrpm, optional?_path?_iff.mpr hspec,
      optional?_text?_iff.mpr harchitecture,
      optional?_text?_iff.mpr hsource]
    rfl

theorem plain_toJson (n : Node) : Plain n.toJson := by
  rw [toJson_eq]
  refine plain_written fun f hf v hv => ?_
  simp only [fields, List.mem_cons, List.not_mem_nil, or_false] at hf
  rcases hf with rfl | rfl | rfl | rfl | rfl | rfl | rfl | rfl | rfl | rfl
  · cases hv
    exact plain_natural _
  · cases hv
    exact n.requirement.plain_toJson
  · cases hv
    exact plain_ofText _
  · cases hv
    exact plain_ofText _
  · cases hv
    exact plain_bool _
  all_goals
    obtain ⟨a, -, rfl⟩ := Option.map_eq_some_iff.mp hv
    exact plain_ofText _

end Node

namespace Graph

/-- An edge is read from its own document only. -/
theorem edgeOfJson?_eq_some_iff {e : NodeId × NodeId} {v : Json} (hv : Formed v) :
    edgeOfJson? v = some e ↔ v = edgeToJson e := by
  constructor
  · intro h
    unfold edgeOfJson? at h
    split at h
    · next source target =>
      obtain ⟨a, ha, h⟩ := Option.bind_eq_some_iff.mp h
      obtain ⟨b, hb, h⟩ := Option.bind_eq_some_iff.mp h
      cases h
      rw [(word64?_eq_some_iff (hv.element (by simp))).mp ha,
        (word64?_eq_some_iff (hv.element (by simp))).mp hb]
      rfl
    · cases h
  · rintro rfl
    show (do
      let source ← word64? (Json.ofWord64 e.1)
      let target ← word64? (Json.ofWord64 e.2)
      some (source, target)) = some e
    rw [word64?_ofWord64, word64?_ofWord64]
    rfl

theorem plain_edgeToJson (e : NodeId × NodeId) : Plain (edgeToJson e) := by
  refine plain_array fun v hv => ?_
  simp only [List.mem_cons, List.not_mem_nil, or_false] at hv
  rcases hv with rfl | rfl <;> exact plain_natural _

/-! ### Graphs -/

/-- The fields of a graph's document. -/
def fields (g : Graph) : List (String × Option Json) :=
  [("nodes", some (.array (g.nodes.values.map Node.toJson))),
    ("edges", some (.array (g.edges.map edgeToJson)))]

/-- The documents that show nodes and edges in an order. -/
inductive Shown (nodes : List Node) (edges : List (NodeId × NodeId)) : Json → Prop where
  | fields {docs : List Json} {field : Option Json} {v : Json}
      (hnodes : List.Forall₂ Node.Shown nodes docs)
      (hedges : field = some (.array (edges.map edgeToJson)) ∨ edges = [] ∧ field = none)
      (h : Shows [("nodes", some (.array docs)), ("edges", field)] v) : Shown nodes edges v

theorem shown_toJson (g : Graph) : Shown g.nodes.values g.edges g.toJson := by
  have hdocs : List.Forall₂ Node.Shown g.nodes.values (g.nodes.values.map Node.toJson) :=
    List.forall₂_map_right_iff.mpr (List.forall₂_same.mpr fun n _ => n.shown_toJson)
  exact .fields hdocs (.inl rfl) (shows_written g.fields)

theorem fields?_iff {nodes edges : Option Json} {v : Json} :
    v.fields? ["nodes", "edges"] = some [nodes, edges] ↔
      Shows [("nodes", nodes), ("edges", edges)] v := by
  have hnames : ["nodes", "edges"].Nodup := by decide
  exact @fields?_eq_some_iff v [("nodes", nodes), ("edges", edges)] hnames

theorem nodes?_iff {nodes : List Node} {v : Json} (hv : Formed v) :
    list? Node.ofJson? v = some nodes ↔ ∃ docs, v = .array docs ∧ List.Forall₂ Node.Shown nodes docs :=
  list?_eq_some_iff hv Node.ofJson?_eq_some_iff

theorem edges?_iff {edges : List (NodeId × NodeId)} {field : Option Json}
    (hfield : ∀ v ∈ field, Formed v) : defaulted? [] (list? edgeOfJson?) field = some edges ↔
      field = some (.array (edges.map edgeToJson)) ∨ edges = [] ∧ field = none := by
  cases field with
  | none => simp [defaulted?, eq_comm]
  | some v =>
    have hread {w : Json} {e : NodeId × NodeId} (hw : Formed w) :
        edgeOfJson? w = some e ↔ edgeToJson e = w := (edgeOfJson?_eq_some_iff hw).trans eq_comm
    rw [defaulted?, list?_eq_some_iff (hfield v rfl) hread]
    simp only [← List.forall₂_map_left_iff, List.forall₂_eq_eq_eq]
    constructor
    · rintro ⟨docs, rfl, rfl⟩
      exact .inl rfl
    · rintro (h | ⟨-, h⟩)
      · cases h
        exact ⟨_, rfl, rfl⟩
      · cases h

/-- Nodes and edges are read from the documents that show them, and from no others. -/
theorem listsOfJson?_eq_some_iff {nodes : List Node} {edges : List (NodeId × NodeId)} {v : Json}
    (hv : Formed v) : listsOfJson? v = some (nodes, edges) ↔ Shown nodes edges v := by
  constructor
  · intro h
    obtain ⟨values, hfields, h⟩ := Option.bind_eq_some_iff.mp h
    split at h
    · next first second =>
      obtain ⟨nodes', hnodes, h⟩ := Option.bind_eq_some_iff.mp h
      obtain ⟨edges', hedges, h⟩ := Option.bind_eq_some_iff.mp h
      cases h
      obtain ⟨w, rfl, hnodes⟩ := Option.bind_eq_some_iff.mp hnodes
      have hshows := fields?_iff.mp hfields
      obtain ⟨docs, rfl, hdocs⟩ := (nodes?_iff (hshows.formed hv List.mem_cons_self)).mp hnodes
      have hsecond : ∀ u ∈ second, Formed u := by
        rintro u rfl
        exact hshows.formed hv (List.mem_cons_of_mem _ List.mem_cons_self)
      exact .fields hdocs ((edges?_iff hsecond).mp hedges) hshows
    · cases h
  · rintro @⟨docs, field, v, hdocs, hedges, h⟩
    have hnodes : Formed (.array docs) := h.formed hv List.mem_cons_self
    have hfield : ∀ u ∈ field, Formed u := by
      rintro u rfl
      exact h.formed hv (List.mem_cons_of_mem _ List.mem_cons_self)
    rw [listsOfJson?, fields?_iff.mpr h]
    show (do
      let nodes ← list? Node.ofJson? (.array docs)
      let edges ← defaulted? [] (list? edgeOfJson?) field
      some (nodes, edges)) = some (nodes, edges)
    rw [(nodes?_iff hnodes).mpr ⟨docs, rfl, hdocs⟩, (edges?_iff hfield).mpr hedges]
    rfl

theorem plain_toJson (g : Graph) : Plain g.toJson := by
  refine plain_record fun m hm => ?_
  simp only [List.mem_cons, List.not_mem_nil, or_false] at hm
  rcases hm with rfl | rfl
  · refine plain_array fun v hv => ?_
    obtain ⟨n, -, rfl⟩ := List.mem_map.mp hv
    exact n.plain_toJson
  · refine plain_array fun v hv => ?_
    obtain ⟨e, -, rfl⟩ := List.mem_map.mp hv
    exact plain_edgeToJson e

/-- A text that some nodes and edges are shown by leads to the graph that is built from them. -/
theorem parse_of_shown {nodes : List Node} {edges : List (NodeId × NodeId)} {v : Json}
    {text : String} (htext : Spread v.tokens text.toList) (h : Shown nodes edges v) :
    parse text = (build nodes edges).mapError fun fault =>
      ⟨.graphRead, fault.toError.message⟩ := by
  rw [parse, read?_eq_some_iff.mpr htext, Option.bind_some,
    (listsOfJson?_eq_some_iff (formed_of_spread htext)).mpr h]
  dsimp only
  cases build nodes edges <;> rfl

/-- A graph is read from the texts of documents that show nodes and edges it is built from. -/
theorem parse_eq_ok_iff_shown {text : String} {g : Graph} :
    parse text = .ok g ↔ ∃ nodes edges v, Spread v.tokens text.toList ∧ Shown nodes edges v
      ∧ build nodes edges = .ok g := by
  constructor
  · intro h
    rw [parse] at h
    cases hlists : (read? text).bind listsOfJson? with
    | none =>
      rw [hlists] at h
      cases h
    | some lists =>
      obtain ⟨v, hread, hv⟩ := Option.bind_eq_some_iff.mp hlists
      have htext := read?_eq_some_iff.mp hread
      refine ⟨lists.1, lists.2, v, htext,
        (listsOfJson?_eq_some_iff (formed_of_spread htext)).mp hv, ?_⟩
      rw [hlists] at h
      dsimp only at h
      cases hbuild : build lists.1 lists.2 with
      | error fault =>
        rw [hbuild] at h
        cases h
      | ok g' =>
        rw [hbuild] at h
        cases h
        rfl
  · rintro ⟨nodes, edges, v, htext, hshown, hbuild⟩
    rw [parse_of_shown htext hshown, hbuild]
    rfl

/-- The text of a graph is laid out from its document. -/
theorem spread_render (g : Graph) : Spread g.toJson.tokens g.render.toList :=
  spread_line g.plain_toJson

/-- The text of a graph leads to the graph that is built from its nodes and edges. -/
theorem parse_render (g : Graph) :
    parse g.render = (build g.nodes.values g.edges).mapError fun fault =>
      ⟨.graphRead, fault.toError.message⟩ :=
  parse_of_shown g.spread_render g.shown_toJson

end Graph

end RpmProvision
