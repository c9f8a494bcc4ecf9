/-
What a repository file says.

Without the blanks at its ends, a line says nothing, names a section, or gives a value to a key. A text
is a repository file if each of its lines does one of these, and no value stands before the first
section. Every section makes a repository of its own, also where two have the same id.

* **`Says`** — what a line says, and **`readLine_eq_ok_iff`**, that it is read so;
* **`Section.repository`** — of the values that a section gives to a key the last one counts;
* **`parse_eq_ok_iff`** — the repositories of a text are those of its sections;
* **`parse_line_by_line`** — a text is refused for its first line that may not stand where it does.
-/
import Mathlib.Data.List.Forall2
import Mathlib.Data.List.Induction
import RpmProvision.Proofs.Text
import RpmProvision.RepoFile

namespace RpmProvision.RepoFile

/-! ### What a line says -/

/-- What a line says once the blanks at its ends are dropped. -/
inductive Spells : List Char → Line → Prop
  | blank : Spells [] .skipped
  | comment {c : Char} (rest : List Char) (hc : c = '#' ∨ c = ';') : Spells (c :: rest) .skipped
  | header {inner id : List Char} (hid : Text.TrimsTo inner id) (hne : id ≠ []) :
    Spells ('[' :: (inner ++ [']'])) (.header (String.ofList id))
  | setting {before after key value : List Char} (hcut : '=' ∉ before)
    (hfirst : ∀ c ∈ before.head?, c ≠ '#' ∧ c ≠ ';' ∧ c ≠ '[') (hkey : Text.TrimsTo before key)
    (hvalue : Text.TrimsTo after value) :
    Spells (before ++ '=' :: after) (.setting (String.ofList key) (String.ofList value))

/-- What a line says. -/
def Says (line : List Char) (x : Line) : Prop := ∃ core, Text.TrimsTo line core ∧ Spells core x

theorem sectionId?_eq_some_iff {rest : List Char} {id : String} :
    sectionId? rest = some id ↔
      ∃ inner core, rest = inner ++ [']'] ∧ Text.TrimsTo inner core ∧ core ≠ []
        ∧ id = String.ofList core := by
  rw [sectionId?]
  constructor
  · intro h
    split_ifs at h with hlast
    obtain ⟨inner, rfl⟩ := List.getLast?_eq_some_iff.mp hlast
    rw [List.dropLast_concat] at h
    cases htrim : Text.trimChars inner with
    | nil =>
      rw [htrim] at h
      cases h
    | cons c cs =>
      rw [htrim] at h
      cases h
      exact ⟨inner, c :: cs, rfl, Text.trimChars_eq_iff.mp htrim, List.cons_ne_nil c cs, rfl⟩
  · rintro ⟨inner, core, rfl, htrim, hne, rfl⟩
    rw [if_pos List.getLast?_concat, List.dropLast_concat, Text.trimChars_eq_iff.mpr htrim]
    match core with
    | [] => exact absurd rfl hne
    | c :: cs => rfl

/-- A line is read as what it says. -/
theorem readLine_eq_ok_iff {line : List Char} {x : Line} : readLine line = .ok x ↔ Says line x := by
  have hread : Says line x ↔ Spells (Text.trimChars line) x := by
    constructor
    · rintro ⟨core, hcore, h⟩
      rwa [Text.trimChars_eq_iff.mpr hcore]
    · intro h
      exact ⟨_, Text.trimChars_eq_iff.mp rfl, h⟩
  rw [hread, readLine]
  generalize Text.trimChars line = core
  constructor
  · intro h
    match core with
    | [] =>
      cases h
      exact .blank
    | c :: rest =>
      dsimp only at h
      split_ifs at h with hcomment hheader
      · cases h
        exact .comment rest hcomment
      · cases hid : sectionId? rest with
        | none =>
          rw [hid] at h
          cases h
        | some id =>
          rw [hid] at h
          cases h
          obtain ⟨inner, core, rfl, htrim, hne, rfl⟩ := sectionId?_eq_some_iff.mp hid
          rw [hheader]
          exact .header htrim hne
      · cases hsplit : Text.splitAtFirst? '=' (c :: rest) with
        | none =>
          rw [hsplit] at h
          cases h
        | some p =>
          obtain ⟨before, after⟩ := p
          rw [hsplit] at h
          cases h
          obtain ⟨hcut, hmem⟩ := Text.splitAtFirst?_eq_some_iff.mp hsplit
          rw [hcut]
          refine .setting hmem (fun d hd => ?_) (Text.trimChars_eq_iff.mp rfl)
            (Text.trimChars_eq_iff.mp rfl)
          have hd : d = c := by
            match before with
            | [] => cases hd
            | b :: bs =>
              cases hd
              exact (List.cons.inj hcut).1.symm
          rw [hd]
          exact ⟨fun hc => hcomment (.inl hc), fun hc => hcomment (.inr hc), hheader⟩
  · intro h
    cases h with
    | blank => rfl
    | comment rest hc => exact if_pos hc
    | header hid hne =>
      rename_i inner id
      have hsection : sectionId? (inner ++ [']']) = some (String.ofList id) :=
        sectionId?_eq_some_iff.mpr ⟨inner, id, rfl, hid, hne, rfl⟩
      dsimp only
      rw [if_neg (by decide), if_pos rfl, hsection]
    | setting hcut hfirst hkey hvalue =>
      rename_i before after key value
      have hsplit : Text.splitAtFirst? '=' (before ++ '=' :: after) = some (before, after) :=
        Text.splitAtFirst?_eq_some_iff.mpr ⟨rfl, hcut⟩
      obtain ⟨c, rest, hcons, hc⟩ : ∃ c rest, before ++ '=' :: after = c :: rest
          ∧ (c ≠ '#' ∧ c ≠ ';' ∧ c ≠ '[') := by
        match before with
        | [] => exact ⟨'=', after, rfl, by decide⟩
        | b :: bs => exact ⟨b, _, rfl, hfirst b rfl⟩
      rw [hcons] at hsplit ⊢
      dsimp only
      rw [if_neg (by simp [hc.1, hc.2.1]), if_neg hc.2.2, hsplit]
      dsimp only
      rw [Text.trimChars_eq_iff.mpr hkey, Text.trimChars_eq_iff.mpr hvalue]

/-! ### Sections -/

/-- Whether a line names a section. -/
def Line.isHeader : Line → Bool
  | .header _ => true
  | _ => false

/-- A section: its id, and what the lines behind the one that names it say. None of them names another
section. -/
structure Section where
  id : String
  body : List Line
  no_header : ∀ x ∈ body, x.isHeader = false

/-- The value that a line gives to a key. -/
def Line.valueOf? (key : String) : Line → Option String
  | .setting k value => if k = key then some value else none
  | _ => none

/-- The last value that lines give to a key. -/
def lastValue? (key : String) (said : List Line) : Option String :=
  (said.filterMap (Line.valueOf? key)).getLast?

namespace Section

/-- What the lines of the section say. -/
def said (s : Section) : List Line := .header s.id :: s.body

/-- The repository of the section: the last value of a key counts, and a repository whose section does
not say whether it is enabled is. -/
def repository (s : Section) : Repository where
  id := s.id
  name := lastValue? "name" s.body
  baseUrl := lastValue? "baseurl" s.body
  enabled := (lastValue? "enabled" s.body).all (· ∈ ["1", "true", "yes"])

end Section

/-- Some lines are those of some sections, with lines that say nothing before the first one. -/
def Describes (lines : List (List Char)) (sections : List Section) : Prop :=
  ∃ n, List.Forall₂ Says lines (List.replicate n .skipped ++ sections.flatMap Section.said)

/-- What a line adds to the repository of the section it stands in. -/
def take (r : Repository) : Line → Repository
  | .setting key value => r.set key value
  | _ => r

theorem lastValue?_concat (key : String) (said : List Line) (x : Line) :
    lastValue? key (said ++ [x]) = (x.valueOf? key).or (lastValue? key said) := by
  rw [lastValue?, lastValue?, List.filterMap_append]
  cases hx : x.valueOf? key with
  | none => simp [hx]
  | some value => simp [hx]

/-- Lines that are taken one by one make the repository of their section. -/
theorem foldl_take (s : Section) : s.body.foldl take (.ofId s.id) = s.repository := by
  rw [Section.repository]
  generalize s.body = body
  induction body using List.reverseRecOn with
  | nil => rfl
  | append_singleton said x ih =>
    rw [List.foldl_append, ih, lastValue?_concat, lastValue?_concat, lastValue?_concat]
    match x with
    | .skipped => rfl
    | .header _ => rfl
    | .setting key value =>
      show Repository.set _ key value = _
      rw [Repository.set]
      by_cases hname : key = "name"
      · simp [hname, Line.valueOf?]
      by_cases hurl : key = "baseurl"
      · simp [hurl, Line.valueOf?]
      by_cases henabled : key = "enabled"
      · simp [henabled, Line.valueOf?]
      · simp [hname, hurl, henabled, Line.valueOf?]

/-- What a section adds to the repositories, the last one first. -/
theorem reverse_repositories_cons (s : Section) (sections : List Section)
    (before : List Repository) :
    ((s :: sections).map Section.repository).reverse ++ before
      = (sections.map Section.repository).reverse ++ s.body.foldl take (.ofId s.id) :: before := by
  rw [foldl_take]
  simp

/-! ### Lines one after another -/

theorem addLine_of_meaning {before : List Repository} {line : List Char} {x : Line}
    (h : Says line x) :
    addLine before line =
      match x, before with
      | .skipped, _ => .ok before
      | .header id, _ => .ok (.ofId id :: before)
      | .setting _ _, [] => .error .outsideSection
      | .setting key value, r :: rest => .ok (r.set key value :: rest) := by
  rw [addLine, readLine_eq_ok_iff.mpr h]
  match x, before with
  | .skipped, _ => rfl
  | .header _, _ => rfl
  | .setting _ _, [] => rfl
  | .setting _ _, _ :: _ => rfl

/-- Only a line that says something can be added. -/
theorem exists_says_of_addLine {before after : List Repository} {line : List Char}
    (h : addLine before line = .ok after) : ∃ x, Says line x := by
  cases hread : readLine line with
  | ok x => exact ⟨x, readLine_eq_ok_iff.mp hread⟩
  | error fault =>
    rw [addLine, hread] at h
    cases h

theorem addLines_cons_eq_ok_iff {before after : List Repository} {number : Nat} {line : List Char}
    {rest : List (List Char)} :
    addLines before number (line :: rest) = .ok after ↔
      ∃ between, addLine before line = .ok between
        ∧ addLines between (number + 1) rest = .ok after := by
  rw [addLines]
  cases addLine before line with
  | ok between => simp
  | error fault => simp

/-- What lines behind the one that names a section add: the rest of this section, and others. -/
theorem addLines_cons_repository {r : Repository} {before after : List Repository} {number : Nat}
    {lines : List (List Char)} :
    addLines (r :: before) number lines = .ok after ↔
      ∃ (body : List Line) (sections : List Section), (∀ x ∈ body, x.isHeader = false)
        ∧ List.Forall₂ Says lines (body ++ sections.flatMap Section.said)
        ∧ after = (sections.map Section.repository).reverse ++ body.foldl take r :: before := by
  induction lines generalizing r before number with
  | nil =>
    rw [addLines]
    constructor
    · intro h
      cases h
      exact ⟨[], [], by simp, .nil, rfl⟩
    · rintro ⟨body, sections, -, hread, rfl⟩
      obtain ⟨rfl, hsections⟩ := List.append_eq_nil_iff.mp (List.forall₂_nil_left_iff.mp hread)
      cases sections with
      | nil => rfl
      | cons s rest => cases hsections
  | cons line lines ih =>
    rw [addLines_cons_eq_ok_iff]
    constructor
    · rintro ⟨between, hline, hlines⟩
      obtain ⟨x, hx⟩ := exists_says_of_addLine hline
      rw [addLine_of_meaning hx] at hline
      match x with
      | .skipped =>
        cases hline
        obtain ⟨body, sections, hbody, hread, hafter⟩ := ih.mp hlines
        exact ⟨.skipped :: body, sections, List.forall_mem_cons.mpr ⟨rfl, hbody⟩, .cons hx hread,
          hafter⟩
      | .header id =>
        cases hline
        obtain ⟨body, sections, hbody, hread, rfl⟩ := ih.mp hlines
        exact ⟨[], ⟨id, body, hbody⟩ :: sections, by simp, .cons hx hread,
          (reverse_repositories_cons ⟨id, body, hbody⟩ sections (r :: before)).symm⟩
      | .setting key value =>
        cases hline
        obtain ⟨body, sections, hbody, hread, hafter⟩ := ih.mp hlines
        exact ⟨.setting key value :: body, sections, List.forall_mem_cons.mpr ⟨rfl, hbody⟩,
          .cons hx hread, hafter⟩
    · rintro ⟨body, sections, hbody, hread, rfl⟩
      match body, sections with
      | [], [] => cases hread
      | [], ⟨id, body, hbody⟩ :: sections =>
        obtain ⟨hx, hread⟩ := List.forall₂_cons.mp hread
        exact ⟨_, addLine_of_meaning hx, ih.mpr ⟨body, sections, hbody, hread,
          reverse_repositories_cons ⟨id, body, hbody⟩ sections (r :: before)⟩⟩
      | x :: body, sections =>
        obtain ⟨hx, hrest⟩ := List.forall₂_cons.mp hread
        obtain ⟨hself, hothers⟩ := List.forall_mem_cons.mp hbody
        match x with
        | .skipped =>
          exact ⟨_, addLine_of_meaning hx, ih.mpr ⟨body, sections, hothers, hrest, rfl⟩⟩
        | .header _ => cases hself
        | .setting key value =>
          exact ⟨_, addLine_of_meaning hx, ih.mpr ⟨body, sections, hothers, hrest, rfl⟩⟩

/-- What the lines of a text add: the repositories of its sections. -/
theorem addLines_nil_eq_ok_iff {after : List Repository} {number : Nat} {lines : List (List Char)} :
    addLines [] number lines = .ok after ↔
      ∃ sections, Describes lines sections ∧ after = (sections.map Section.repository).reverse := by
  induction lines generalizing number with
  | nil =>
    rw [addLines]
    constructor
    · intro h
      cases h
      exact ⟨[], ⟨0, .nil⟩, rfl⟩
    · rintro ⟨sections, ⟨n, hread⟩, rfl⟩
      obtain ⟨-, hsections⟩ := List.append_eq_nil_iff.mp (List.forall₂_nil_left_iff.mp hread)
      cases sections with
      | nil => rfl
      | cons s rest => cases hsections
  | cons line lines ih =>
    rw [addLines_cons_eq_ok_iff]
    constructor
    · rintro ⟨between, hline, hlines⟩
      obtain ⟨x, hx⟩ := exists_says_of_addLine hline
      rw [addLine_of_meaning hx] at hline
      match x with
      | .skipped =>
        cases hline
        obtain ⟨sections, ⟨n, hread⟩, hafter⟩ := ih.mp hlines
        exact ⟨sections, ⟨n + 1, .cons hx hread⟩, hafter⟩
      | .header id =>
        cases hline
        obtain ⟨body, sections, hbody, hread, rfl⟩ := addLines_cons_repository.mp hlines
        refine ⟨⟨id, body, hbody⟩ :: sections, ⟨0, .cons hx hread⟩, ?_⟩
        have hcons := reverse_repositories_cons ⟨id, body, hbody⟩ sections []
        rw [List.append_nil] at hcons
        exact hcons.symm
      | .setting key value => cases hline
    · rintro ⟨sections, ⟨n, hread⟩, rfl⟩
      match n, sections with
      | n + 1, sections =>
        obtain ⟨hx, hread⟩ := List.forall₂_cons.mp hread
        exact ⟨_, addLine_of_meaning hx, ih.mpr ⟨sections, ⟨n, hread⟩, rfl⟩⟩
      | 0, [] => cases hread
      | 0, ⟨id, body, hbody⟩ :: sections =>
        obtain ⟨hx, hread⟩ := List.forall₂_cons.mp hread
        refine ⟨_, addLine_of_meaning hx,
          addLines_cons_repository.mpr ⟨body, sections, hbody, hread, ?_⟩⟩
        have hcons := reverse_repositories_cons ⟨id, body, hbody⟩ sections []
        rw [List.append_nil] at hcons
        exact hcons

/-- The repositories of a text are those of its sections, in their order. -/
theorem parse_eq_ok_iff {text : String} {repositories : List Repository} :
    parse text = .ok repositories ↔
      ∃ sections, Describes (Text.lines text.toList) sections
        ∧ repositories = sections.map Section.repository := by
  rw [parse]
  cases hlines : addLines [] 1 (Text.lines text.toList) with
  | error fault =>
    constructor
    · intro h
      cases h
    · rintro ⟨sections, hsections, -⟩
      rw [addLines_nil_eq_ok_iff.mpr ⟨sections, hsections, rfl⟩] at hlines
      cases hlines
  | ok after =>
    constructor
    · intro h
      cases h
      obtain ⟨sections, hsections, rfl⟩ := addLines_nil_eq_ok_iff.mp hlines
      exact ⟨sections, hsections, List.reverse_reverse _⟩
    · rintro ⟨sections, hsections, rfl⟩
      rw [addLines_nil_eq_ok_iff.mpr ⟨sections, hsections, rfl⟩] at hlines
      cases hlines
      show Except.ok (List.reverse (List.reverse _)) = _
      rw [List.reverse_reverse]

/-! ### The first faulty line -/

/-- A line may stand behind some others: it says nothing, or names a section, or gives a value to a key
and one of the others names a section. -/
inductive Fits (before : List (List Char)) (line : List Char) : Prop
  | skipped (h : Says line .skipped)
  | header {id : String} (h : Says line (.header id))
  | setting {key value : String} (h : Says line (.setting key value)) {above : List Char}
    {id : String} (habove : above ∈ before) (hid : Says above (.header id))

/-- A line says one thing. -/
theorem says_unique {line : List Char} {x y : Line} (hx : Says line x) (hy : Says line y) : x = y :=
  Except.ok.inj ((readLine_eq_ok_iff.mpr hx).symm.trans (readLine_eq_ok_iff.mpr hy))

/-- There are repositories behind a line if there were some before it or it names a section. -/
theorem ne_nil_of_addLine {before after : List Repository} {line : List Char}
    (h : addLine before line = .ok after) :
    after ≠ [] ↔ before ≠ [] ∨ ∃ id, Says line (.header id) := by
  obtain ⟨x, hx⟩ := exists_says_of_addLine h
  rw [addLine_of_meaning hx] at h
  match x, before with
  | .header id, _ =>
    cases h
    exact ⟨fun _ => .inr ⟨id, hx⟩, fun _ => List.cons_ne_nil _ _⟩
  | .setting _ _, r :: rest =>
    cases h
    exact ⟨fun _ => .inl (List.cons_ne_nil _ _), fun _ => List.cons_ne_nil _ _⟩
  | .skipped, before =>
    cases h
    refine ⟨.inl, fun hor => hor.resolve_right ?_⟩
    rintro ⟨id, hid⟩
    cases says_unique hx hid

/-- The same of several lines. -/
theorem ne_nil_of_addLines {before after : List Repository} {number : Nat}
    {lines : List (List Char)} (h : addLines before number lines = .ok after) :
    after ≠ [] ↔ before ≠ [] ∨ ∃ line ∈ lines, ∃ id, Says line (.header id) := by
  induction lines generalizing before number with
  | nil =>
    cases h
    simp
  | cons line rest ih =>
    obtain ⟨between, hline, hrest⟩ := addLines_cons_eq_ok_iff.mp h
    rw [ih hrest, ne_nil_of_addLine hline, List.exists_mem_cons_iff, or_assoc]

/-- A line can be added behind others if it may stand there. -/
theorem fits_iff {front : List (List Char)} {line : List Char} {number : Nat}
    {between : List Repository} (h : addLines [] number front = .ok between) :
    Fits front line ↔ ∃ after, addLine between line = .ok after := by
  have hheader := ne_nil_of_addLines h
  constructor
  · intro hfits
    cases hfits with
    | skipped hx => exact ⟨_, addLine_of_meaning hx⟩
    | header hx => exact ⟨_, addLine_of_meaning hx⟩
    | setting hx habove hid =>
      obtain ⟨r, rest, rfl⟩ := List.exists_cons_of_ne_nil (hheader.mpr (.inr ⟨_, habove, _, hid⟩))
      exact ⟨_, addLine_of_meaning hx⟩
  · rintro ⟨after, hadd⟩
    obtain ⟨x, hx⟩ := exists_says_of_addLine hadd
    rw [addLine_of_meaning hx] at hadd
    match x, between with
    | .skipped, _ => exact .skipped hx
    | .header _, _ => exact .header hx
    | .setting _ _, r :: rest =>
      obtain ⟨above, habove, id, hid⟩ :=
        (hheader.mp (List.cons_ne_nil r rest)).resolve_left (fun hne => hne rfl)
      exact .setting hx habove hid

/-- Lines are added one after another, up to the first one that cannot be added. -/
theorem addLines_append (before : List Repository) (number : Nat) (front rest : List (List Char)) :
    addLines before number (front ++ rest) =
      (addLines before number front).bind fun between =>
        addLines between (number + front.length) rest := by
  induction front generalizing before number with
  | nil => rfl
  | cons line front ih =>
    rw [List.cons_append, addLines, addLines, List.length_cons]
    cases addLine before line with
    | error fault => rfl
    | ok between =>
      dsimp only
      rw [ih, Nat.add_right_comm, Nat.add_assoc]

/-- Where lines cannot all be added, there is one that those before it leave no place for. -/
theorem exists_fault_of_addLines {before : List Repository} {number m : Nat} {fault : Fault}
    {lines : List (List Char)} (h : addLines before number lines = .error (m, fault)) :
    ∃ front line rest between, lines = front ++ line :: rest ∧ m = number + front.length
      ∧ addLines before number front = .ok between ∧ addLine between line = .error fault := by
  induction lines generalizing before number with
  | nil => cases h
  | cons line rest ih =>
    rw [addLines] at h
    cases hline : addLine before line with
    | error fault' =>
      rw [hline] at h
      cases h
      exact ⟨[], line, rest, before, rfl, rfl, rfl, hline⟩
    | ok after =>
      rw [hline] at h
      obtain ⟨front, bad, more, between, rfl, rfl, hfront, hbad⟩ := ih h
      refine ⟨line :: front, bad, more, between, rfl, ?_, ?_, hbad⟩
      · rw [List.length_cons]
        omega
      · rw [addLines, hline]
        exact hfront

/-- Every line of lines that can be added may stand behind those before it. -/
theorem fits_of_addLines {number : Nat} {lines front rest : List (List Char)} {line : List Char}
    {after : List Repository} (h : addLines [] number lines = .ok after)
    (hsplit : lines = front ++ line :: rest) : Fits front line := by
  rw [hsplit, addLines_append] at h
  cases hfront : addLines [] number front with
  | error fault =>
    rw [hfront] at h
    cases h
  | ok between =>
    rw [hfront] at h
    obtain ⟨next, hline, -⟩ := addLines_cons_eq_ok_iff.mp h
    exact (fits_iff hfront).mpr ⟨next, hline⟩

theorem isOk_parse_iff {text : String} :
    (∃ repositories, parse text = .ok repositories)
      ↔ ∃ after, addLines [] 1 (Text.lines text.toList) = .ok after := by
  rw [parse]
  cases addLines [] 1 (Text.lines text.toList) with
  | error fault => simp [Except.map]
  | ok after => simp [Except.map]

theorem parse_eq_error_iff {text : String} {fault : Nat × Fault} :
    parse text = .error fault ↔ addLines [] 1 (Text.lines text.toList) = .error fault := by
  rw [parse]
  cases addLines [] 1 (Text.lines text.toList) with
  | error fault' => simp [Except.map]
  | ok after => simp [Except.map]

/-- The message for a faulty line begins with its number. -/
theorem exists_message (number : Nat) (fault : Fault) :
    ∃ text, (faultError (number, fault)).detail = "line " ++ toString number ++ ": " ++ text := by
  have hlead (text : String) : "line " ++ toString number ++ (": " ++ text)
      = "line " ++ toString number ++ ": " ++ text := (String.append_assoc ..).symm
  match fault with
  | .badHeader line =>
    refine ⟨"bad section header '" ++ line ++ "'", ?_⟩
    rw [← hlead]
    show "line " ++ toString number ++ ": bad section header '" ++ line ++ "'" = _
    have hwords : ": bad section header '" = ": " ++ "bad section header '" := rfl
    rw [hwords]
    simp only [String.append_assoc]
  | .noValue => exact ⟨"expected key=value", hlead "expected key=value"⟩
  | .outsideSection => exact ⟨"key outside of a section", hlead "key outside of a section"⟩

/-- A text is read if every line of it may stand behind the lines before it. Then its repositories are
those of its sections, one for each line that names a section, in their order. If it is not read, the
error names the number of the first line that may not stand where it does. -/
theorem parse_line_by_line (text : String) :
    ((∃ repositories, parse text = .ok repositories) ↔
        ∀ front line rest, Text.lines text.toList = front ++ line :: rest → Fits front line)
      ∧ (∀ repositories, parse text = .ok repositories ↔
        ∃ sections, Describes (Text.lines text.toList) sections
          ∧ repositories = sections.map Section.repository)
      ∧ ∀ number fault, parse text = .error (number, fault) →
        (∃ front line rest, Text.lines text.toList = front ++ line :: rest
          ∧ number = front.length + 1 ∧ ¬ Fits front line
          ∧ ∀ front' line' rest', front = front' ++ line' :: rest' → Fits front' line')
        ∧ ∃ text, (faultError (number, fault)).detail = "line " ++ toString number ++ ": " ++ text := by
  -- the first line that cannot be added is the first one that does not fit
  have hfault {number : Nat} {fault : Fault} (h : parse text = .error (number, fault)) :
      ∃ front line rest, Text.lines text.toList = front ++ line :: rest
        ∧ number = front.length + 1 ∧ ¬ Fits front line
        ∧ ∀ front' line' rest', front = front' ++ line' :: rest' → Fits front' line' := by
    obtain ⟨front, line, rest, between, hsplit, hnumber, hfront, hline⟩ :=
      exists_fault_of_addLines (parse_eq_error_iff.mp h)
    refine ⟨front, line, rest, hsplit, hnumber.trans (Nat.add_comm ..), fun hfits => ?_,
      fun _ _ _ => fits_of_addLines hfront⟩
    obtain ⟨after, hok⟩ := (fits_iff hfront).mp hfits
    rw [hline] at hok
    cases hok
  refine ⟨⟨fun hok front line rest hsplit => ?_, fun hall => ?_⟩, fun _ => parse_eq_ok_iff,
    fun number fault h => ⟨hfault h, exists_message number fault⟩⟩
  · obtain ⟨after, hafter⟩ := isOk_parse_iff.mp hok
    exact fits_of_addLines hafter hsplit
  · cases hparse : parse text with
    | ok repositories => exact ⟨repositories, rfl⟩
    | error fault =>
      obtain ⟨front, line, rest, hsplit, -, hnot, -⟩ := hfault hparse
      exact absurd (hall front line rest hsplit) hnot

example : (parse "# all\n[ base ]\nname = a = b\nenabled = 0\nenabled=yes\n\n[base]\r\n").toOption
    = some [⟨"base", some "a = b", none, true⟩, ⟨"base", none, none, true⟩] := by
  decide +kernel

end RpmProvision.RepoFile
