/-
Graphs that are read from different texts.

Nodes and edges are presented by many texts. They may stand in any order, and edges more than once; a
node may be shown by any of its documents, with its members in any order and others among them; and
the documents may be laid out and their strings be escaped in any way. None of this matters, since a
graph is determined by what it holds. What matters is whether its parts contradict each other.

* **`Presents`** — the texts that present nodes and edges;
* **`parse_presented`** — all of these texts are read alike;
* **`parse_eq_ok_iff`** — a graph is read from no others.
-/
import RpmProvision.Proofs.Graph.Reread

namespace RpmProvision.Graph

open Json

variable {nodes : List Node} {edges : List (NodeId × NodeId)} {g : Graph}

/-- The texts that present some nodes and edges: the nodes may stand in any order, the edges in any
order and more than once, and a document that shows them may be laid out in any way. -/
inductive Presents (nodes : List Node) (edges : List (NodeId × NodeId)) (text : String) : Prop where
  | document {nodes' : List Node} {edges' : List (NodeId × NodeId)} {v : Json}
      (hnodes : nodes'.Perm nodes) (hedges : ∀ e, e ∈ edges' ↔ e ∈ edges)
      (hshown : Shown nodes' edges' v) (htext : Spread v.tokens text.toList) :
      Presents nodes edges text

/-- The text of a graph presents its nodes and edges. -/
theorem presents_render (g : Graph) : Presents g.nodes.values g.edges g.render :=
  .document (.refl _) (fun _ => Iff.rfl) g.shown_toJson g.spread_render

/-- What is read from a text that presents nodes and edges is what is built from them. -/
theorem parse_of_presents {text : String} (h : Presents nodes edges text) :
    ((∃ g, parse text = .ok g) ↔ WellPosed nodes edges)
      ∧ ∀ g, parse text = .ok g → Holds nodes edges g := by
  obtain @⟨nodes', edges', v, hnodes, hedges, hshown, htext⟩ := h
  have hparse (g : Graph) : parse text = .ok g ↔ build nodes' edges' = .ok g := by
    rw [parse_of_shown htext hshown]
    cases build nodes' edges' <;> simp [Except.mapError]
  refine ⟨?_, fun g hg => ?_⟩
  · simp only [hparse]
    rw [exists_build_iff]
    exact ⟨fun h => h.congr hnodes.symm fun e => (hedges e).symm, fun h => h.congr hnodes hedges⟩
  · have hholds : Holds nodes' edges' g := holds_of_build ((hparse g).mp hg)
    exact hholds.congr hnodes.symm fun e => (hedges e).symm

/-- All texts that present some nodes and edges are read alike. A graph is read from them exactly if
no two of the nodes have one number, no two run nodes have one requirement, and every edge is between
two of the nodes. The graph holds these nodes and edges, in both directions, and the run nodes hold
its slots; and it is the same graph for each of the texts. -/
theorem parse_presented {text : String} (h : Presents nodes edges text) :
    ((∃ g, parse text = .ok g) ↔ WellPosed nodes edges)
      ∧ (∀ g, parse text = .ok g → Holds nodes edges g)
      ∧ ∀ text', Presents nodes edges text' → (parse text').toOption = (parse text).toOption := by
  obtain ⟨hiff, hholds⟩ := parse_of_presents h
  refine ⟨hiff, hholds, fun text' h' => ?_⟩
  obtain ⟨hiff', hholds'⟩ := parse_of_presents h'
  cases hparse : parse text with
  | error e =>
    cases hparse' : parse text' with
    | error e' => rfl
    | ok g' =>
      -- one text alone cannot be refused
      obtain ⟨g, hg⟩ := hiff.mpr (hiff'.mp ⟨g', hparse'⟩)
      cases hparse.symm.trans hg
  | ok g =>
    obtain ⟨g', hparse'⟩ := hiff'.mpr (hiff.mp ⟨g, hparse⟩)
    have heq : g' = g := (hholds g hparse).eq (hholds' g' hparse') (sound_of_parse hparse)
      (sound_of_parse hparse')
    rw [hparse', heq]

/-- A graph is read from a text exactly if the text presents nodes and edges that can be in one graph,
and the graph is the sound one that holds them. -/
theorem parse_eq_ok_iff {text : String} :
    parse text = .ok g ↔ Sound g
      ∧ ∃ nodes edges, Presents nodes edges text ∧ WellPosed nodes edges ∧ Holds nodes edges g := by
  constructor
  · intro h
    obtain ⟨nodes, edges, v, htext, hshown, hbuild⟩ := parse_eq_ok_iff_shown.mp h
    refine ⟨sound_of_build hbuild, nodes, edges, ?_, exists_build_iff.mp ⟨g, hbuild⟩,
      holds_of_build hbuild⟩
    exact .document (.refl _) (fun _ => Iff.rfl) hshown htext
  · rintro ⟨hg, nodes, edges, hpresents, hwell, hholds⟩
    obtain ⟨hiff, hread⟩ := parse_of_presents hpresents
    obtain ⟨g', hparse⟩ := hiff.mpr hwell
    rw [hparse, hholds.eq (hread g' hparse) hg (sound_of_parse hparse)]

/-! ### One graph, two texts -/

/-- The node of zlib. -/
def zlibNode : Node := ⟨0, ⟨"zlib", none, none⟩, .unresolved, .run, false, none, none, none, none, none⟩

/-- The node of an application that needs zlib. -/
def appNode : Node := ⟨1, ⟨"app", none, none⟩, .build, .build, true, none, none, none, none, none⟩

/-- The members of a document of zlib, an unknown one last. -/
def zlibMembers : List (String × Json) :=
  [("id", .natural 0), ("pkg", .record [("name", .ofText "zlib")]), ("state", .ofText "unresolved"),
    ("type", .ofText "run"), ("rpm_path", .null), ("note", .array [.bool true, .object []])]

/-- The document of the application as an array, with its state as an object. -/
def appInOrder : Json :=
  .array [.natural 1, .array [.ofText "app", .null], .record [("build", .null)], .ofText "build",
    .bool true]

/-- A document with all members and the nodes in the reverse order, and with the edge twice. -/
def reversedDocument : Json :=
  .record [("edges", .array [edgeToJson (1, 0), edgeToJson (1, 0)]),
    ("nodes", .array [appInOrder, .record zlibMembers.reverse])]

theorem shown_zlibReversed : zlibNode.Shown (.record zlibMembers.reverse) := by
  have hrequirement : zlibNode.requirement.Shown (.record [("name", .ofText "zlib")]) :=
    .fields .omitted .omitted (shows_written _)
  refine .fields hrequirement .name .name .omitted .null .omitted .omitted .omitted .omitted ?_
  exact @Shows.object _ _ [("note", .array [.bool true, .object []])] (by simp)
    (List.reverse_perm zlibMembers)

theorem shown_appInOrder : appNode.Shown appInOrder := by
  have hrequirement : appNode.requirement.Shown (.array [.ofText "app", .null]) :=
    .fields .null .omitted (.array 1 rfl)
  exact .fields hrequirement .object .name (.written true) .omitted .omitted .omitted .omitted
    .omitted (.array 5 rfl)

theorem plain_reversedDocument : Plain reversedDocument := by
  have hnull : Plain .null := by simp [Plain, tokens, Token.Plain]
  have hnote : Plain (.array [.bool true, .object []]) :=
    plain_array (by simp [Plain, tokens, memberTokens, Token.Plain])
  have hzlib : Plain (.record zlibMembers.reverse) :=
    plain_record (by simp [zlibMembers, plain_natural, plain_ofText, plain_record, hnull, hnote])
  have happ : Plain appInOrder :=
    plain_array (by simp [plain_natural, plain_ofText, plain_bool, plain_record, plain_array, hnull])
  exact plain_record (by simp [plain_array, plain_edgeToJson, happ, hzlib])

theorem presents_reversedDocument :
    Presents [zlibNode, appNode] [(1, 0)] reversedDocument.compact := by
  have hshown : Shown [appNode, zlibNode] [(1, 0), (1, 0)] reversedDocument :=
    .fields (.cons shown_appInOrder (.cons shown_zlibReversed .nil)) (.inl rfl)
      (@Shows.object _ _ [] (by simp) (List.Perm.swap _ _ _))
  exact .document (List.Perm.swap _ _ _) (by simp) hshown (spread_compact plain_reversedDocument)

/-- The document that is written for the two nodes and the edge. -/
def orderedDocument : Json :=
  .record [("nodes", .array [zlibNode.toJson, appNode.toJson]),
    ("edges", .array [edgeToJson (1, 0)])]

theorem presents_orderedDocument :
    Presents [zlibNode, appNode] [(1, 0)] (orderedDocument.indented ++ "\n") := by
  have hshown : Shown [zlibNode, appNode] [(1, 0)] orderedDocument :=
    .fields (.cons zlibNode.shown_toJson (.cons appNode.shown_toJson .nil)) (.inl rfl)
      (shows_written _)
  have hplain : Plain orderedDocument :=
    plain_record (by simp [plain_array, plain_edgeToJson, Node.plain_toJson])
  exact .document (.refl _) (fun _ => Iff.rfl) hshown (spread_line hplain)

/-- Both texts lead to one graph. -/
theorem presented_reversedDocument :
    Presents [zlibNode, appNode] [(1, 0)] reversedDocument.compact
      ∧ ∃ g, parse reversedDocument.compact = .ok g ∧ Holds [zlibNode, appNode] [(1, 0)] g
        ∧ parse (orderedDocument.indented ++ "\n") = .ok g := by
  obtain ⟨hiff, hholds, halike⟩ := parse_presented presents_reversedDocument
  have hwell : WellPosed [zlibNode, appNode] [(1, 0)] := by
    refine ⟨by decide, by decide, fun e he => ?_⟩
    cases List.mem_singleton.mp he
    exact ⟨⟨appNode, by simp, rfl⟩, zlibNode, by simp, rfl⟩
  obtain ⟨g, hg⟩ := hiff.mpr hwell
  have hordered := halike _ presents_orderedDocument
  rw [hg] at hordered
  refine ⟨presents_reversedDocument, g, hg, hholds g hg, ?_⟩
  cases hparse : parse (orderedDocument.indented ++ "\n") with
  | error e =>
    rw [hparse] at hordered
    cases hordered
  | ok g' =>
    rw [hparse] at hordered
    cases hordered
    rfl

end RpmProvision.Graph
