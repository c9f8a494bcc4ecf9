/-
Which packages the debug output of a transaction adds.

A line that adds a package begins with a lead, and then come the package, a blank and the architecture
up to its mark. The mark is the first one in its word that is not at the beginning of the word, and an
architecture without a mark in it cannot run into the mark that follows: the mark has its only dash at
its beginning.

* **`Addition`** — the lines that add a package;
* **`Line`** — the lines of an output: each adds a package or does not begin like one that does;
* **`parse_transcript`** — the packages that an output adds, each where it is first added.
-/
import RpmProvision.Listing.Transaction
import RpmProvision.Proofs.Text

namespace RpmProvision.Listing.Transaction

/-! ### The beginning of a line -/

/-- How a line begins that adds a package. There is one equals sign more than `bars`. -/
def lead (bars : Nat) : List Char :=
  ['D', ':', ' '] ++ List.replicate (bars + 1) '=' ++ [' ', '+', '+', '+', ' ']

theorem after?_eq_some_iff {beginning cs rest : List Char} :
    after? beginning cs = some rest ↔ cs = beginning ++ rest := by
  rw [after?]
  by_cases h : beginning.isPrefixOf cs = true
  · obtain ⟨more, rfl⟩ := List.isPrefixOf_iff_prefix.mp h
    rw [if_pos h, List.drop_left, Option.some.injEq, List.append_cancel_left_eq]
  · rw [if_neg h]
    constructor
    · intro hnone
      cases hnone
    · rintro rfl
      exact absurd (List.isPrefixOf_iff_prefix.mpr (List.prefix_append ..)) h

theorem afterLead?_eq_some_iff {line rest : List Char} :
    afterLead? line = some rest ↔ ∃ bars, line = lead bars ++ rest := by
  simp only [afterLead?, Option.bind_eq_some_iff, after?_eq_some_iff]
  constructor
  · rintro ⟨more, rfl, hmore⟩
    -- the equals signs that are passed over are all the same character
    have hbars : more.takeWhile (· = '=')
        = List.replicate (more.takeWhile (· = '=')).length '=' := by
      refine List.eq_replicate_iff.mpr ⟨rfl, fun c hc => ?_⟩
      simpa using List.mem_takeWhile_imp hc
    refine ⟨(more.takeWhile (· = '=')).length, ?_⟩
    have hmore' := List.takeWhile_append_dropWhile (p := (· = '=')) (l := more)
    rw [hmore, hbars] at hmore'
    rw [lead, List.replicate_succ, ← hmore']
    simp
  · rintro ⟨bars, rfl⟩
    refine ⟨List.replicate bars '=' ++ ([' ', '+', '+', '+', ' '] ++ rest), ?_, ?_⟩
    · rw [lead, List.replicate_succ]
      simp
    · rw [List.dropWhile_append_of_pos fun c hc => decide_eq_true (List.eq_of_mem_replicate hc)]
      rfl

/-! ### The architecture -/

/-- The mark begins where an architecture without a mark ends, and not before. -/
theorem not_prefix_systemMark {arch : List Char} (hne : arch ≠ []) (h : ¬ systemMark <+: arch)
    (more : List Char) : ¬ systemMark <+: arch ++ (systemMark ++ more) := by
  rintro ⟨t, ht⟩
  rcases List.append_eq_append_iff.mp ht with ⟨more', rfl, -⟩ | ⟨tail, hmark, hrest⟩
  · exact h (List.prefix_append ..)
  · -- a tail of the mark would have to begin with a dash, but the mark has no dash after its first
    obtain ⟨c, cs, rfl⟩ := List.exists_cons_of_ne_nil hne
    cases tail with
    | nil =>
      rw [List.append_nil] at hmark
      exact h (hmark ▸ List.prefix_rfl)
    | cons d ds =>
      have hd : '-' = d := (List.cons.inj hrest).1
      have hlinux : ['l', 'i', 'n', 'u', 'x'] = cs ++ d :: ds := (List.cons.inj hmark).2
      have hmem : '-' ∈ ['l', 'i', 'n', 'u', 'x'] := by
        rw [hlinux, hd]
        simp
      exact absurd hmem (by decide)

/-- An architecture without a mark in it is what stands before the first mark. -/
theorem beforeMark?_append {arch : List Char} (hne : arch ≠ []) (h : ¬ systemMark <:+: arch)
    (more : List Char) : beforeMark? (arch ++ (systemMark ++ more)) = some arch := by
  induction arch with
  | nil => exact absurd rfl hne
  | cons c arch ih =>
    rw [List.cons_append, beforeMark?]
    by_cases hlast : arch = []
    · rw [hlast, List.nil_append, if_pos (List.isPrefixOf_iff_prefix.mpr (List.prefix_append ..))]
    · have harch : ¬ systemMark <:+: arch := fun hmark =>
        h (hmark.trans (List.suffix_cons c arch).isInfix)
      have hearly : ¬ systemMark.isPrefixOf (arch ++ (systemMark ++ more)) = true := by
        rw [List.isPrefixOf_iff_prefix]
        exact not_prefix_systemMark hlast (fun hmark => harch hmark.isInfix) more
      rw [if_neg hearly, ih hlast harch, Option.map_some]

/-! ### Lines -/

/-- Characters that make a word, without a slash. -/
structure IsWord (cs : List Char) : Prop where
  ne_nil : cs ≠ []
  no_blank : ∀ c ∈ cs, Text.isBlank c = false
  no_slash : '/' ∉ cs

/-- A line that adds a package: a name with version and release, an architecture, and whatever stands
behind the mark. -/
structure Addition where
  bars : Nat
  nevr : List Char
  arch : List Char
  rest : List Char
  nevr_word : IsWord nevr
  arch_word : IsWord arch
  arch_no_mark : ¬ systemMark <:+: arch
  rest_no_end : '\n' ∉ rest

namespace Addition

/-- The line. -/
def chars (a : Addition) : List Char :=
  lead a.bars ++ (a.nevr ++ ' ' :: (a.arch ++ (systemMark ++ a.rest)))

/-- The package. -/
def package (a : Addition) : String := String.ofList (a.nevr ++ '.' :: a.arch)

end Addition

theorem no_blank_of_all {cs : List Char} (h : cs.all (!Text.isBlank ·)) :
    ∀ c ∈ cs, Text.isBlank c = false := by
  simpa using h

/-- Only what stands behind the mark can be dropped at the end of a line that adds a package. -/
theorem exists_trimEndChars_chars (a : Addition) : ∃ more, Text.trimEndChars a.chars
    = lead a.bars ++ (a.nevr ++ ' ' :: (a.arch ++ (systemMark ++ more))) := by
  have hassoc (more : List Char) : lead a.bars ++ (a.nevr ++ ' ' :: (a.arch ++ (systemMark ++ more)))
      = (lead a.bars ++ (a.nevr ++ ' ' :: (a.arch ++ systemMark))) ++ more := by
    simp
  rw [Addition.chars, hassoc, Text.trimEndChars_append]
  by_cases hrest : Text.trimEndChars a.rest = []
  · refine ⟨[], ?_⟩
    have hend : lead a.bars ++ (a.nevr ++ ' ' :: (a.arch ++ systemMark))
        = (lead a.bars ++ (a.nevr ++ ' ' :: (a.arch ++ ['-', 'l', 'i', 'n', 'u']))) ++ ['x'] := by
      simp [systemMark]
    rw [if_pos hrest, hassoc, List.append_nil, hend]
    refine Text.trimEndChars_eq_self fun c hc => ?_
    rw [List.getLast?_concat, Option.mem_some_iff] at hc
    rw [← hc]
    decide
  · rw [if_neg hrest]
    exact ⟨_, (hassoc _).symm⟩

theorem packageOfLine?_chars (a : Addition) : packageOfLine? a.chars = some a.package := by
  obtain ⟨more, htrim⟩ := exists_trimEndChars_chars a
  have hlead : afterLead? (Text.trimEndChars a.chars)
      = some (a.nevr ++ ' ' :: (a.arch ++ (systemMark ++ more))) :=
    afterLead?_eq_some_iff.mpr ⟨a.bars, htrim⟩
  have hblank (cs : List Char) : (' ' :: cs).takeWhile (!Text.isBlank ·) = []
      ∧ (' ' :: cs).dropWhile (!Text.isBlank ·) = ' ' :: cs := ⟨rfl, rfl⟩
  have hmark (cs : List Char) : (systemMark ++ cs).takeWhile (!Text.isBlank ·)
      = systemMark ++ cs.takeWhile (!Text.isBlank ·) := Text.takeWhile_word (no_blank_of_all rfl) cs
  rw [packageOfLine?, hlead, Option.bind_some]
  dsimp only
  rw [Text.takeWhile_word a.nevr_word.no_blank, Text.dropWhile_word a.nevr_word.no_blank,
    (hblank _).1, (hblank _).2, List.append_nil, if_neg a.nevr_word.ne_nil]
  show Option.map (fun arch => String.ofList (a.nevr ++ '.' :: arch)) (beforeMark?
    ((a.arch ++ (systemMark ++ more)).takeWhile (!Text.isBlank ·))) = some a.package
  rw [Text.takeWhile_word a.arch_word.no_blank, hmark,
    beforeMark?_append a.arch_word.ne_nil a.arch_no_mark]
  rfl

/-- A line that does not begin with a lead adds no package. -/
theorem packageOfLine?_of_not_lead {cs : List Char} (h : ∀ bars, ¬ lead bars <+: cs) :
    packageOfLine? cs = none := by
  cases hlead : afterLead? (Text.trimEndChars cs) with
  | none => rw [packageOfLine?, hlead, Option.bind_none]
  | some rest =>
    obtain ⟨bars, htrim⟩ := afterLead?_eq_some_iff.mp hlead
    obtain ⟨after, hcs, -⟩ := Text.exists_trimEndChars_append cs
    refine absurd ⟨rest ++ after, ?_⟩ (h bars)
    rw [← List.append_assoc, ← htrim, ← hcs]

theorem packageOfLine?_dropReturn (cs : List Char) :
    packageOfLine? (Text.dropReturn cs) = packageOfLine? cs := by
  rw [packageOfLine?, packageOfLine?, Text.trimEndChars_dropReturn]

/-- A line of an output: it adds a package, or it does not begin like one that does. -/
inductive Line
  | addition (a : Addition)
  | other (cs : List Char) (hother : ∀ bars, ¬ lead bars <+: cs) (hend : '\n' ∉ cs)

namespace Line

/-- The characters of the line. -/
def chars : Line → List Char
  | addition a => a.chars
  | other cs _ _ => cs

/-- The package that the line adds. -/
def package? : Line → Option String
  | addition a => some a.package
  | other .. => none

theorem packageOfLine?_eq (line : Line) : packageOfLine? line.chars = line.package? :=
  match line with
  | addition a => packageOfLine?_chars a
  | other _ hother _ => packageOfLine?_of_not_lead hother

theorem not_mem_chars (line : Line) : '\n' ∉ line.chars := by
  match line with
  | other cs _ hend => exact hend
  | addition a =>
    have hword {cs : List Char} (h : IsWord cs) : '\n' ∉ cs := fun hmem =>
      absurd (h.no_blank '\n' hmem) (by decide)
    simp [chars, Addition.chars, lead, systemMark, hword a.nevr_word, hword a.arch_word,
      a.rest_no_end]

end Line

/-- The packages that some lines add, each where it is first added. -/
def added (ls : List Line) : List String := (ls.filterMap Line.package?).eraseDups

theorem added_eq_nil_iff {ls : List Line} : added ls = [] ↔ ∀ a, .addition a ∉ ls := by
  have hnil {l : List String} : l.eraseDups = [] ↔ l = [] := by
    cases l with
    | nil => simp
    | cons package rest => simp [List.eraseDups_cons]
  rw [added, hnil, List.filterMap_eq_nil_iff]
  constructor
  · intro h a ha
    cases h _ ha
  · intro h line hline
    match line with
    | .addition a => exact absurd hline (h a)
    | .other .. => rfl

/-- The first package that is added is that of the first line that adds one. -/
theorem head?_added (ls : List Line) : (added ls).head? = ls.findSome? Line.package? := by
  rw [added, ← List.head?_filterMap]
  cases ls.filterMap Line.package? with
  | nil => simp
  | cons package rest => simp [List.eraseDups_cons]

/-- A package that a line adds has no slash in its name. -/
theorem not_mem_of_findSome? {ls : List Line} {package : String}
    (h : ls.findSome? Line.package? = some package) : '/' ∉ package.toList := by
  obtain ⟨line, -, hline⟩ := List.exists_of_findSome?_eq_some h
  match line, hline with
  | .addition a, hline =>
    cases hline
    rw [Addition.package, String.toList_ofList]
    simp [a.nevr_word.no_slash, a.arch_word.no_slash]

/-- The output that consists of some lines. -/
def transcript (ls : List Line) : String := String.ofList (Text.joinWith '\n' (ls.map Line.chars))

/-- The packages that an output adds are those that its lines add. -/
theorem parse_transcript (ls : List Line) : parse (transcript ls) = added ls := by
  rw [parse, added, transcript, String.toList_ofList,
    Text.filterMap_lines packageOfLine?_dropReturn rfl]
  by_cases hne : ls = []
  · rw [hne]
    rfl
  · have hpieces : Text.splitAtEach '\n' (Text.joinWith '\n' (ls.map Line.chars))
        = ls.map Line.chars := by
      refine Text.splitAtEach_joinWith (by simpa using hne) fun piece hpiece => ?_
      obtain ⟨line, -, rfl⟩ := List.mem_map.mp hpiece
      exact line.not_mem_chars
    rw [hpieces, List.filterMap_map]
    exact congrArg (fun f => (ls.filterMap f).eraseDups) (funext Line.packageOfLine?_eq)

example : parse ("D: ===== +++ zlib-1.2-1 x86_64-linux 0x0\r\nerror: +++ a b-linux\n"
    ++ "D: = +++ zlib-1.2-1 x86_64-linux") = ["zlib-1.2-1.x86_64"] := by
  decide +kernel

end RpmProvision.Listing.Transaction
