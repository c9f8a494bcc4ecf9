/-
Paths of what stands in a directory.

* **`fileName?_child`** — a name in a directory is the file name of its path;
* **`isName_of_mem_components`** — the names among the components of a path are proper names;
* **`isEntryOf_join_iff`** — when a path that is joined to a directory stands directly in it;
* **`IsEntryOf.parent`** — the parent of what stands directly in a directory is the directory;
* **`cutAtPoint_eq_rpm`** — the names with the extension `rpm`;
* **`exists_fileName?_of_rpm`** — a path that ends in `.rpm` has a file name that does.
-/
import RpmProvision.Disk.Path
import RpmProvision.Proofs.Text

namespace RpmProvision

namespace Path

/-- The name of something that stands in a directory. -/
structure IsName (name : String) : Prop where
  no_slash : '/' ∉ name.toList
  ne_empty : name ≠ ""
  ne_here : name ≠ "."
  ne_up : name ≠ ".."

instance (name : String) : Decidable (IsName name) :=
  decidable_of_iff ('/' ∉ name.toList ∧ name ≠ "" ∧ name ≠ "." ∧ name ≠ "..")
    ⟨fun h => ⟨h.1, h.2.1, h.2.2.1, h.2.2.2⟩, fun h => ⟨h.1, h.2, h.3, h.4⟩⟩

/-- The file name is the last component. -/
theorem fileName?_eq_some_iff {p : Path} {name : String} :
    p.fileName? = some name ↔ p.components.getLast? = some (.name name) := by
  rw [fileName?]
  match p.components.getLast? with
  | none => simp
  | some .root => simp
  | some .here => simp
  | some .up => simp
  | some (.name n) => simp

theorem fileName?_of_pieces {p : Path} {before : List String} {name : String} (hname : IsName name)
    (h : p.pieces = before ++ [name]) : p.fileName? = some name := by
  have hidle : isIdle name = false := by
    simp [isIdle, hname.ne_empty, hname.ne_here]
  have hcomponent : componentOf name = .name name := by
    simp [componentOf, hname.ne_here, hname.ne_up]
  have hlast : p.components.getLast? = some (.name name) := by
    rw [components, h]
    match before with
    | [] => simp [componentsOf, hname.ne_empty, hcomponent]
    | first :: rest => simp [componentsOf, hidle, hcomponent]
  exact fileName?_eq_some_iff.mpr hlast

/-- A name in a directory is the file name of its path. -/
theorem fileName?_child (dir : Path) {name : String} (hname : IsName name) :
    (dir.child name).fileName? = some name := by
  have habs : isAbsolute ⟨name⟩ = false := by
    rw [isAbsolute, beq_eq_false_iff_ne]
    intro h
    exact hname.no_slash (List.mem_of_head? h)
  have hself : Text.splitAtEach '/' name.toList = [name.toList] :=
    Text.splitAtEach_of_not_mem hname.no_slash
  rw [child, join, habs, if_neg (by decide)]
  -- a slash is put between only where there is none; the name is the last piece either way
  by_cases hdir : (dir.text == "" || dir.endsInSlash) = true
  · rw [if_pos hdir]
    rw [Bool.or_eq_true, beq_iff_eq] at hdir
    rcases hdir with hempty | hslash
    · refine @fileName?_of_pieces _ [] name hname ?_
      rw [pieces, hempty]
      simp [hself]
    · rw [endsInSlash, beq_iff_eq] at hslash
      obtain ⟨front, hfront⟩ := List.getLast?_eq_some_iff.mp hslash
      refine @fileName?_of_pieces _ ((Text.splitAtEach '/' front).map String.ofList) name hname ?_
      rw [pieces, String.toList_append, hfront, List.append_assoc, List.singleton_append,
        Text.splitAtEach_append, hself]
      simp
  · rw [if_neg hdir]
    refine @fileName?_of_pieces _ ((Text.splitAtEach '/' dir.text.toList).map String.ofList) name
      hname ?_
    rw [pieces, String.toList_append, String.toList_append, List.append_assoc]
    show List.map _ (Text.splitAtEach '/' (dir.text.toList ++ '/' :: name.toList)) = _
    rw [Text.splitAtEach_append, hself]
    simp

/-- A name among the components of a path is a proper one. -/
theorem isName_of_mem_components {p : Path} {name : String} (h : .name name ∈ p.components) :
    IsName name := by
  -- the piece that stands for the name is neither a point nor empty
  obtain ⟨piece, hmem, hempty, hpiece⟩ :
      ∃ piece ∈ p.pieces, piece ≠ "" ∧ componentOf piece = .name name := by
    rw [components] at h
    match hp : p.pieces with
    | [] =>
      rw [hp] at h
      cases h
    | first :: rest =>
      rw [hp] at h
      rcases List.mem_append.mp h with h | h
      · by_cases hfirst : first = ""
        · cases rest <;> simp [hfirst] at h
        · rw [beq_eq_false_iff_ne.mpr hfirst, if_neg (by decide), List.mem_singleton] at h
          exact ⟨first, List.mem_cons_self, hfirst, h.symm⟩
      · obtain ⟨piece, hmem, hpiece⟩ := List.mem_map.mp h
        obtain ⟨hmem, hidle⟩ := List.mem_filter.mp hmem
        refine ⟨piece, List.mem_cons_of_mem _ hmem, ?_, hpiece⟩
        rintro rfl
        cases hidle
  have hslash : '/' ∉ piece.toList := by
    obtain ⟨chars, hchars, rfl⟩ := List.mem_map.mp hmem
    rw [String.toList_ofList]
    exact Text.not_mem_of_mem_splitAtEach hchars
  rw [componentOf] at hpiece
  by_cases hhere : piece = "."
  · simp [hhere] at hpiece
  by_cases hup : piece = ".."
  · simp [hup] at hpiece
  rw [beq_eq_false_iff_ne.mpr hhere, beq_eq_false_iff_ne.mpr hup] at hpiece
  cases hpiece
  exact ⟨hslash, hempty, hhere, hup⟩

/-- A file name is a proper name. -/
theorem isName_of_fileName? {p : Path} {name : String} (h : p.fileName? = some name) :
    IsName name :=
  isName_of_mem_components (List.mem_of_getLast? (fileName?_eq_some_iff.mp h))

/-! ### What a path adds to a directory -/

/-- The components of the pieces that count. -/
def counted (pieces : List String) : List Component :=
  (pieces.filter (!isIdle ·)).map componentOf

theorem counted_append (pieces more : List String) :
    counted (pieces ++ more) = counted pieces ++ counted more := by
  simp [counted]

theorem exists_pieces (p : Path) : ∃ first rest, p.pieces = first :: rest := by
  have hne : p.pieces ≠ [] := by
    simp [pieces, Text.splitAtEach_ne_nil]
  exact List.exists_cons_of_ne_nil hne

/-- The paths above a path come after the path itself. -/
theorem ancestors_eq_cons (p : Path) (n : Nat) : ∃ above, p.ancestors n = p :: above := by
  cases n with
  | zero => exact ⟨[], rfl⟩
  | succ n =>
    rw [ancestors]
    cases p.parent? with
    | none => exact ⟨[], rfl⟩
    | some q => exact ⟨_, rfl⟩

theorem pieces_slash (before after : String) :
    pieces ⟨before ++ "/" ++ after⟩ = pieces ⟨before⟩ ++ pieces ⟨after⟩ := by
  rw [pieces, String.toList_append, String.toList_append, List.append_assoc]
  show List.map _ (Text.splitAtEach '/' (before.toList ++ '/' :: after.toList)) = _
  rw [Text.splitAtEach_append, List.map_append]
  rfl

/-- Pieces behind others count one by one. The piece that a closing slash makes stands for them. -/
theorem componentsOf_append (first : String) (rest : List String) {more : List String}
    (h : more ≠ []) :
    componentsOf first (rest ++ more) = componentsOf first (rest ++ [""]) ++ counted more := by
  have hlead : (rest ++ more).isEmpty = (rest ++ [""]).isEmpty := by
    cases rest <;> simp [h]
  have hempty : counted [""] = [] := rfl
  show _ ++ counted (rest ++ more) = (_ ++ counted (rest ++ [""])) ++ counted more
  rw [hlead, counted_append, counted_append, hempty, List.append_nil, List.append_assoc]

theorem text_eq_empty {p : Path} (h : p.pieces = [""]) : p.text = "" := by
  have hsplit : Text.splitAtEach '/' p.text.toList = [[]] := by
    rw [pieces, List.map_eq_singleton_iff] at h
    obtain ⟨piece, hpiece, hempty⟩ := h
    rw [hpiece, ← String.toList_ofList (l := piece), hempty]
    rfl
  have hjoin := Text.joinWith_splitAtEach '/' p.text.toList
  rw [hsplit] at hjoin
  exact String.toList_eq_nil_iff.mp hjoin.symm

/-- A closing slash adds nothing to a path that has anything else. -/
theorem componentsOf_closed {first : String} {rest : List String} (h : first ≠ "" ∨ rest ≠ []) :
    componentsOf first (rest ++ [""]) = componentsOf first rest := by
  have hempty : counted [""] = [] := rfl
  show _ ++ counted (rest ++ [""]) = _ ++ counted rest
  rw [counted_append, hempty, List.append_nil]
  cases rest with
  | cons piece pieces => rfl
  | nil =>
    rcases h with h | h
    · simp [h]
    · exact absurd rfl h

/-- What is joined to a path adds the components of its pieces that count. -/
theorem components_join {dir q : Path} (hdir : dir.text ≠ "") (hq : q.isAbsolute = false) :
    (dir.join q).components = dir.components ++ counted q.pieces := by
  have hne : q.pieces ≠ [] := by
    simp [pieces, Text.splitAtEach_ne_nil]
  rw [join, hq, if_neg (by decide), beq_eq_false_iff_ne.mpr hdir, Bool.false_or]
  by_cases hslash : dir.endsInSlash = true
  · -- the slash that is there already makes an empty last piece
    rw [if_pos hslash]
    rw [endsInSlash, beq_iff_eq] at hslash
    obtain ⟨front, hfront⟩ := List.getLast?_eq_some_iff.mp hslash
    have htext : dir.text = String.ofList front ++ "/" ++ "" := by
      apply String.ext
      rw [hfront, String.toList_append, String.toList_append, String.toList_ofList]
      simp
    have htext' : dir.text ++ q.text = String.ofList front ++ "/" ++ q.text := by
      rw [htext, String.append_empty]
    obtain ⟨first, rest, hpieces⟩ := exists_pieces ⟨String.ofList front⟩
    have hclosed : dir.pieces = first :: (rest ++ [""]) := by
      show pieces ⟨dir.text⟩ = _
      rw [htext, pieces_slash, hpieces]
      rfl
    rw [htext', components, components, pieces_slash, hpieces, hclosed]
    exact componentsOf_append first rest hne
  · rw [if_neg hslash]
    obtain ⟨first, rest, hpieces⟩ := exists_pieces dir
    have hlead : first ≠ "" ∨ rest ≠ [] := by
      by_cases hfirst : first = ""
      · refine .inr fun hrest => hdir (text_eq_empty ?_)
        rw [hpieces, hfirst, hrest]
      · exact .inl hfirst
    rw [components, components, pieces_slash, hpieces]
    show componentsOf first (rest ++ q.pieces) = componentsOf first rest ++ _
    rw [componentsOf_append first rest hne, componentsOf_closed hlead]

theorem componentOf_eq_here {piece : String} : componentOf piece = .here ↔ piece = "." := by
  rw [componentOf]
  by_cases hhere : piece = "."
  · simp [hhere]
  · by_cases hup : piece = ".." <;> simp [hhere, hup]

/-- Only the whole of an empty path is an empty first piece of a relative one. -/
theorem eq_nil_of_relative {q : Path} {rest : List String} (hq : q.isAbsolute = false)
    (h : q.pieces = "" :: rest) : rest = [] := by
  cases rest with
  | nil => rfl
  | cons piece more =>
    obtain ⟨first, others, hsplit, hfirst, hothers⟩ := List.map_eq_cons_iff.mp h
    obtain ⟨piece', more', rfl, -, -⟩ := List.map_eq_cons_iff.mp hothers
    rw [← String.toList_ofList (l := first), hfirst] at hsplit
    rw [isAbsolute, Text.head?_of_splitAtEach hsplit] at hq
    cases hq

/-- A relative path has the components that it adds when it is joined, and before them at most one
for the directory that it is seen from. -/
theorem components_of_relative {q : Path} (hq : q.isAbsolute = false) :
    q.components = counted q.pieces ∧ q.components.head? ≠ some .here
      ∨ q.components = .here :: counted q.pieces := by
  obtain ⟨first, rest, hpieces⟩ := exists_pieces q
  have hcounted : counted (first :: rest) = counted [first] ++ counted rest :=
    counted_append [first] rest
  rw [components, hpieces, hcounted]
  by_cases hempty : first = ""
  · subst hempty
    rw [eq_nil_of_relative hq hpieces]
    exact .inl ⟨rfl, by simp [componentsOf]⟩
  · have hlead : componentsOf first rest = componentOf first :: counted rest := by
      simp [componentsOf, counted, hempty]
    show componentsOf first rest = _ ∧ (componentsOf first rest).head? ≠ _
      ∨ componentsOf first rest = _
    rw [hlead]
    by_cases hhere : first = "."
    · subst hhere
      exact .inr rfl
    · have hself : counted [first] = [componentOf first] := by
        simp [counted, isIdle, hempty, hhere]
      rw [hself]
      refine .inl ⟨rfl, fun h => hhere (componentOf_eq_here.mp ?_)⟩
      exact Option.some.inj h

/-- The path is the directory followed by one name. -/
def IsEntryOf (p dir : Path) : Prop := ∃ name, p.components = dir.components ++ [.name name]

/-- A path that is joined to a directory stands directly in it if it is a name, to which a first
point may be added; an absolute path does if it is a path into the directory itself. -/
theorem isEntryOf_join_iff {dir q : Path} :
    (dir.join q).IsEntryOf dir ↔
      if q.isAbsolute then q.IsEntryOf dir
      else ∃ name, q.components = [.name name]
        ∨ dir.text ≠ "" ∧ q.components = [.here, .name name] := by
  cases hq : q.isAbsolute with
  | true =>
    rw [join, hq]
    rfl
  | false =>
    rw [if_neg (by decide)]
    by_cases hdir : dir.text = ""
    · have hjoin : dir.join q = q := by
        simp [join, hq, hdir]
      have hnone : dir.components = [] := by
        rw [components, pieces, hdir]
        rfl
      rw [hjoin, IsEntryOf, hnone]
      simp [hdir]
    · rw [IsEntryOf, components_join hdir hq]
      simp only [List.append_cancel_left_eq]
      rcases components_of_relative hq with ⟨hq', hhere⟩ | hq'
      · rw [← hq']
        constructor
        · rintro ⟨name, hname⟩
          exact ⟨name, .inl hname⟩
        · rintro ⟨name, hname | ⟨-, hname⟩⟩
          · exact ⟨name, hname⟩
          · rw [hname] at hhere
            exact absurd rfl hhere
      · rw [hq']
        constructor
        · rintro ⟨name, hname⟩
          exact ⟨name, .inr ⟨hdir, by rw [hname]⟩⟩
        · rintro ⟨name, hname | ⟨-, hname⟩⟩
          · simp at hname
          · exact ⟨name, (List.cons.inj hname).2⟩

/-- A name in a directory stands directly in it. -/
theorem isEntryOf_child (dir : Path) {name : String} (hname : IsName name) :
    (dir.child name).IsEntryOf dir := by
  have hpieces : pieces ⟨name⟩ = [name] := by
    simp [pieces, Text.splitAtEach_of_not_mem hname.no_slash]
  have hrelative : isAbsolute ⟨name⟩ = false := by
    rw [isAbsolute, beq_eq_false_iff_ne]
    intro h
    exact hname.no_slash (List.mem_of_head? h)
  have hcomponents : components ⟨name⟩ = [.name name] := by
    rw [components, hpieces]
    simp [componentsOf, componentOf, hname.ne_empty, hname.ne_here, hname.ne_up]
  rw [child, isEntryOf_join_iff, hrelative, if_neg (by decide)]
  exact ⟨name, .inl hcomponents⟩

/-! ### The parent of a path -/

theorem no_slash_of_mem_pieces {p : Path} {piece : String} (h : piece ∈ p.pieces) :
    '/' ∉ piece.toList := by
  obtain ⟨chars, hmem, rfl⟩ := List.mem_map.mp h
  rw [String.toList_ofList]
  exact Text.not_mem_of_mem_splitAtEach hmem

theorem pieces_intercalate {first : String} {rest : List String}
    (h : ∀ piece ∈ first :: rest, '/' ∉ piece.toList) :
    pieces ⟨String.intercalate "/" (first :: rest)⟩ = first :: rest := by
  induction rest generalizing first with
  | nil =>
    have hfirst := Text.splitAtEach_of_not_mem (h first List.mem_cons_self)
    simp [pieces, hfirst]
  | cons piece rest ih =>
    have hfirst := Text.splitAtEach_of_not_mem (h first List.mem_cons_self)
    rw [String.intercalate_cons_cons, pieces_slash,
      ih fun piece' hmem => h piece' (List.mem_cons_of_mem first hmem)]
    simp [pieces, hfirst]

/-- Only pieces at the end are dropped, and only such as do not count. -/
theorem dropIdle_prefix_self (pieces : List String) : dropIdle pieces <+: pieces := by
  induction pieces with
  | nil => exact List.prefix_rfl
  | cons piece rest ih =>
    rw [dropIdle]
    cases hrest : dropIdle rest with
    | nil =>
      by_cases hidle : isIdle piece
      · simp [hidle]
      · simp [hidle]
    | cons q qs =>
      rw [hrest] at ih
      exact (List.prefix_cons_inj piece).mpr ih

theorem counted_dropIdle (pieces : List String) : counted (dropIdle pieces) = counted pieces := by
  induction pieces with
  | nil => rfl
  | cons piece rest ih =>
    have hcons (more : List String) : counted (piece :: more) = counted [piece] ++ counted more :=
      counted_append [piece] more
    rw [dropIdle, hcons rest, ← ih]
    cases dropIdle rest with
    | nil =>
      by_cases hidle : isIdle piece
      · simp [hidle, counted]
      · simp [hidle, counted]
    | cons q qs => exact hcons (q :: qs)

theorem dropIdle_eq {pieces kept : List String} (h : dropIdle pieces = kept) (hne : kept ≠ []) :
    ∃ front last, kept = front ++ [last] ∧ isIdle last = false := by
  induction pieces generalizing kept with
  | nil => exact absurd h.symm hne
  | cons piece rest ih =>
    rw [dropIdle] at h
    cases hrest : dropIdle rest with
    | nil =>
      rw [hrest] at h
      cases hidle : isIdle piece with
      | true => simp [hidle, hne.symm] at h
      | false =>
        simp only [hidle] at h
        exact ⟨[], piece, h.symm, hidle⟩
    | cons q qs =>
      rw [hrest] at h
      obtain ⟨front, last, hkept, hlast⟩ := ih hrest (List.cons_ne_nil q qs)
      refine ⟨piece :: front, last, ?_, hlast⟩
      rw [← h, List.cons_append, ← hkept]

/-- What the first piece of a path stands for, if there is anything in the path. -/
def leading (first : String) : Component := if first = "" then .root else componentOf first

theorem componentsOf_eq {first : String} {rest : List String} (h : first ≠ "" ∨ rest ≠ []) :
    componentsOf first rest = leading first :: counted rest := by
  by_cases hfirst : first = ""
  · have hrest : rest ≠ [] := h.resolve_left (not_not_intro hfirst)
    simp [componentsOf, leading, counted, hfirst, hrest]
  · simp [componentsOf, leading, counted, hfirst]

/-- A path whose last component is not the root has a parent, and that has the components before
the last one. -/
theorem parent?_eq {p : Path} {before : List Component} {c : Component} (hc : c ≠ .root)
    (h : p.components = before ++ [c]) : ∃ q, p.parent? = some q ∧ q.components = before := by
  obtain ⟨first, rest, hpieces⟩ := exists_pieces p
  have hclean : ∀ piece ∈ first :: rest, '/' ∉ piece.toList := by
    intro piece hmem
    exact no_slash_of_mem_pieces (hpieces ▸ hmem)
  have hrest := counted_dropIdle rest
  rw [components, hpieces] at h
  change componentsOf first rest = before ++ [c] at h
  have hsome : first ≠ "" ∨ rest ≠ [] := by
    by_cases hfirst : first = ""
    · refine .inr fun hnil => ?_
      rw [hfirst, hnil] at h
      simp [componentsOf] at h
    · exact .inl hfirst
  rw [componentsOf_eq hsome, ← hrest] at h
  rw [parent?, hpieces]
  dsimp only
  cases hkept : dropIdle rest with
  | nil =>
    -- only the first piece counts
    rw [hkept] at h
    have hbefore := congrArg List.dropLast h
    have hlast := congrArg List.getLast? h
    simp [counted] at hbefore hlast
    have hfirst : first ≠ "" := by
      rintro rfl
      exact hc hlast.symm
    refine ⟨⟨""⟩, by simp [hfirst], ?_⟩
    rw [hbefore]
    rfl
  | cons k ks =>
    obtain ⟨front, last, hsplit, hidle⟩ := dropIdle_eq hkept (List.cons_ne_nil k ks)
    have hfront : front ++ [last] <+: rest := by
      rw [← hsplit, ← hkept]
      exact dropIdle_prefix_self rest
    have hcounted : counted [last] = [componentOf last] := by
      simp [counted, hidle]
    rw [hkept, hsplit, counted_append, hcounted, ← List.cons_append] at h
    have hbefore := congrArg List.dropLast h
    rw [List.dropLast_concat, List.dropLast_concat] at hbefore
    have hshorter := counted_dropIdle front
    dsimp only
    rw [hsplit, List.dropLast_concat, ← hbefore, ← hshorter]
    cases hleft : dropIdle front with
    | nil =>
      by_cases hfirst : first = ""
      · subst hfirst
        exact ⟨⟨"/"⟩, rfl, rfl⟩
      · refine ⟨⟨first⟩, by simp [hfirst], ?_⟩
        have hself : pieces ⟨String.intercalate "/" [first]⟩ = [first] := pieces_intercalate
          fun piece hmem => hclean piece (List.mem_singleton.mp hmem ▸ List.mem_cons_self)
        rw [components, ← String.intercalate_singleton (s := "/") (t := first), hself]
        exact componentsOf_eq (.inl hfirst)
    | cons l ls =>
      refine ⟨⟨String.intercalate "/" (first :: l :: ls)⟩, rfl, ?_⟩
      have hshort : l :: ls <+: rest := by
        rw [← hleft]
        exact (dropIdle_prefix_self front).trans ((List.prefix_append front [last]).trans hfront)
      have hself : pieces ⟨String.intercalate "/" (first :: l :: ls)⟩ = first :: l :: ls := by
        refine pieces_intercalate fun piece hmem => ?_
        rcases List.mem_cons.mp hmem with rfl | hmem
        · exact hclean piece List.mem_cons_self
        · exact hclean piece (List.mem_cons_of_mem first (hshort.subset hmem))
      rw [components, hself]
      exact componentsOf_eq (.inr (List.cons_ne_nil l ls))

/-- The parent of what stands directly in a directory is the directory. -/
theorem IsEntryOf.parent {p dir : Path} (h : p.IsEntryOf dir) :
    ∃ q, p.parent? = some q ∧ q.sameAs dir := by
  obtain ⟨name, hname⟩ := h
  obtain ⟨q, hq, hcomponents⟩ := parent?_eq (c := .name name) (by simp) hname
  refine ⟨q, hq, ?_⟩
  rw [sameAs, hcomponents]
  exact beq_self_eq_true _

/-- A name with the extension `rpm` is something before `.rpm`. -/
theorem cutAtPoint_eq_rpm {name package : String} :
    cutAtPoint name = (package, some "rpm") ↔ package ≠ "" ∧ name = package ++ ".rpm" := by
  -- the name is cut at its last point, which is the first one from behind
  rw [cutAtPoint]
  constructor
  · intro h
    match hs : Text.splitAtFirst? '.' name.toList.reverse with
    | none => simp [hs] at h
    | some (_, []) => simp [hs] at h
    | some (after, c :: before) =>
      rw [hs] at h
      simp only [Prod.mk.injEq, Option.some.injEq] at h
      obtain ⟨rfl, hafter⟩ := h
      have hrev := congrArg List.reverse (Text.splitAtFirst?_eq_some_iff.mp hs).1
      rw [List.reverse_reverse] at hrev
      constructor
      · simp
      · have hafter' : after.reverse = ['r', 'p', 'm'] := by
          rw [← String.toList_ofList (l := after.reverse), hafter]
          rfl
        apply String.ext
        rw [hrev, List.reverse_append, List.reverse_cons, hafter', String.toList_append,
          String.toList_ofList, List.append_assoc]
        rfl
  · rintro ⟨hne, rfl⟩
    have hrev : (package ++ ".rpm").toList.reverse
        = 'm' :: 'p' :: 'r' :: '.' :: package.toList.reverse := by
      rw [String.toList_append, List.reverse_append]
      rfl
    have hsplit : Text.splitAtFirst? '.' (package ++ ".rpm").toList.reverse
        = some (['m', 'p', 'r'], package.toList.reverse) := by
      rw [hrev]
      rfl
    rw [hsplit]
    match hp : package.toList.reverse with
    | [] =>
      rw [List.reverse_eq_nil_iff] at hp
      exact absurd (String.toList_eq_nil_iff.mp hp) hne
    | c :: before =>
      show (String.ofList (c :: before).reverse, some (String.ofList ['r', 'p', 'm'])) = _
      rw [← hp, List.reverse_reverse, String.ofList_toList]

/-! ### Files of packages -/

/-- What is the same path has the same file name. -/
theorem fileName?_of_sameAs {p q : Path} (h : p.sameAs q) : p.fileName? = q.fileName? := by
  rw [sameAs, beq_iff_eq] at h
  rw [fileName?, fileName?, h]

/-- The RPM of a package without a slash has a proper name. -/
theorem isName_rpm {package : String} (h : '/' ∉ package.toList) : IsName (package ++ ".rpm") := by
  refine ⟨?_, ?_, ?_, ?_⟩
  · rw [String.toList_append, List.mem_append]
    rintro (hmem | hmem)
    · exact h hmem
    · exact absurd hmem (by decide)
  all_goals
    intro heq
    have hlength := congrArg (fun text => text.toList.length) heq
    simp at hlength

/-- What is joined to a path stands at the end of the text. -/
theorem exists_text_join (p q : Path) : ∃ front, (p.join q).text = front ++ q.text := by
  rw [join]
  by_cases hq : q.isAbsolute = true
  · rw [if_pos hq]
    exact ⟨"", by simp⟩
  · rw [if_neg hq]
    by_cases hp : (p.text == "" || p.endsInSlash) = true
    · rw [if_pos hp]
      exact ⟨p.text, rfl⟩
    · rw [if_neg hp]
      exact ⟨p.text ++ "/", rfl⟩

/-- A path that ends in `.rpm` has a file name that does. -/
theorem exists_fileName?_of_rpm {p : Path} {front : String} (h : p.text = front ++ ".rpm") :
    ∃ package, '/' ∉ package.toList ∧ p.fileName? = some (package ++ ".rpm") := by
  have hslash : '/' ∉ ".rpm".toList := by decide
  obtain ⟨before, last, hsplit⟩ := Text.exists_splitAtEach_append hslash front.toList
  have hpieces : p.pieces = before.map String.ofList ++ [String.ofList last ++ ".rpm"] := by
    have hlast : String.ofList (last ++ ".rpm".toList) = String.ofList last ++ ".rpm" := by
      apply String.ext
      simp
    rw [pieces, h, String.toList_append, hsplit, List.map_append, List.map_singleton, hlast]
  have hclean : '/' ∉ (String.ofList last).toList := by
    have hmem : String.ofList last ++ ".rpm" ∈ p.pieces := by
      rw [hpieces]
      exact List.mem_append_right _ (List.mem_singleton_self _)
    intro hslash
    refine no_slash_of_mem_pieces hmem ?_
    rw [String.toList_append]
    exact List.mem_append_left _ hslash
  exact ⟨String.ofList last, hclean, fileName?_of_pieces (isName_rpm hclean) hpieces⟩

end Path

end RpmProvision
