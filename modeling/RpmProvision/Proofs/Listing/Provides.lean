/-
Which packages a listing shows.

A line is looked at without the blanks at its end, and a blank has to follow the colon behind the
package. So a package is shown by the line of an entry if something stands in the entry's summary. Of
an entry with nothing in its summary the blank behind the colon is at the end of the line, and the
line shows no package.

* **`isPackageName_iff`** — the words that look like packages;
* **`Line`**, **`listing`** — the lines of a listing, and its text with line ends of either sort;
* **`parse_listing`** — the packages that are shown: those of the entries with a summary;
* **`overlooked_iff`** — the packages that are not shown although the listing has entries for them.
-/
import RpmProvision.Listing.Provides
import RpmProvision.Proofs.Text

namespace RpmProvision.Listing.Provides

/-! ### Words -/

/-- Behind the first dash that is not at the beginning of a word stands what is behind any other, and
more. -/
theorem exists_dropWhile_dash (cs rest : List Char) :
    ∃ more, (cs ++ '-' :: rest).dropWhile (· ≠ '-') = '-' :: (more ++ rest) := by
  induction cs with
  | nil => exact ⟨[], by simp⟩
  | cons c cs ih =>
    by_cases hc : c = '-'
    · refine ⟨cs ++ ['-'], ?_⟩
      rw [List.cons_append, List.dropWhile_cons_of_neg (by simp [hc]), hc]
      simp
    · rw [List.cons_append, List.dropWhile_cons_of_pos (by simp [hc])]
      exact ih

/-- A word looks like a package if it can be cut at a dash and at a later point into three parts that
are not empty. -/
theorem isPackageName_iff {word : List Char} :
    isPackageName word ↔
      ∃ x y z, x ≠ [] ∧ y ≠ [] ∧ z ≠ [] ∧ word = x ++ '-' :: (y ++ '.' :: z) := by
  constructor
  · intro h
    cases word with
    | nil => simp [isPackageName] at h
    | cons c cs =>
      rw [isPackageName, List.drop_one, List.tail_cons] at h
      cases hdash : cs.dropWhile (· ≠ '-') with
      | nil =>
        rw [hdash] at h
        simp at h
      | cons d rest =>
        rw [hdash] at h
        dsimp only at h
        -- the dash at which the word is cut is the first one behind its first character
        obtain ⟨front, hfront⟩ : ∃ front, cs = front ++ '-' :: rest := by
          have hhead := List.head?_dropWhile_not (· ≠ '-') cs
          rw [hdash] at hhead
          have hd : d = '-' := by simpa using hhead
          have hcut := List.takeWhile_append_dropWhile (p := (· ≠ '-')) (l := cs)
          rw [hdash, hd] at hcut
          exact ⟨_, hcut.symm⟩
        cases rest with
        | nil => simp at h
        | cons e more =>
          rw [List.drop_one, List.tail_cons, List.contains_iff_mem] at h
          have hne : more ≠ [] := by
            intro hnil
            simp [hnil] at h
          obtain ⟨before, after, hmore⟩ := List.append_of_mem h
          have hlast := List.dropLast_concat_getLast hne
          refine ⟨c :: front, e :: before, after ++ [more.getLast hne], by simp, by simp, by simp, ?_⟩
          rw [hmore] at hlast
          simp only [List.cons_append, List.append_assoc] at hlast ⊢
          rw [hfront, hlast]
  · rintro ⟨x, y, z, hx, hy, hz, rfl⟩
    obtain ⟨c, cs, rfl⟩ := List.exists_cons_of_ne_nil hx
    obtain ⟨d, ds, rfl⟩ := List.exists_cons_of_ne_nil hy
    obtain ⟨more, hmore⟩ := exists_dropWhile_dash cs (d :: ds ++ '.' :: z)
    have hdrop : ∃ front, (more ++ (d :: ds ++ '.' :: z)).drop 1 = front ++ '.' :: z := by
      cases more with
      | nil => exact ⟨ds, by simp⟩
      | cons e more => exact ⟨more ++ d :: ds, by simp⟩
    obtain ⟨front, hfront⟩ := hdrop
    rw [isPackageName, List.cons_append, List.drop_one, List.tail_cons, hmore]
    dsimp only
    rw [hfront, List.dropLast_append_of_ne_nil (by simp), List.dropLast_cons_of_ne_nil hz]
    simp

/-! ### Lines -/

/-- What a line shows that is a word and blanks behind it, once the blanks at its end are dropped. -/
theorem packageOfLine?_of_trim {line word rest : List Char}
    (htrim : Text.trimEndChars line = word ++ rest) (hword : ∀ c ∈ word, Text.isBlank c = false)
    (hrest : ∀ c ∈ rest.head?, Text.isBlank c) :
    packageOfLine? line
      = if isPackageName word && isColumnMark rest then some (String.ofList word) else none := by
  have hstop : rest.takeWhile (!Text.isBlank ·) = [] ∧ rest.dropWhile (!Text.isBlank ·) = rest := by
    cases rest with
    | nil => simp
    | cons c rest => simp [hrest c rfl]
  rw [packageOfLine?, htrim, Text.takeWhile_word hword, Text.dropWhile_word hword, hstop.1, hstop.2,
    List.append_nil]

theorem packageOfLine?_dropReturn (cs : List Char) :
    packageOfLine? (Text.dropReturn cs) = packageOfLine? cs := by
  rw [packageOfLine?, packageOfLine?, Text.trimEndChars_dropReturn]

/-- Characters that make a part of a package's name. -/
structure IsPart (cs : List Char) : Prop where
  ne_nil : cs ≠ []
  no_blank : ∀ c ∈ cs, Text.isBlank c = false

/-- An entry of a listing: a package with name, version, release and architecture, and a summary of
one line. -/
structure Entry where
  name : List Char
  version : List Char
  release : List Char
  arch : List Char
  summary : List Char
  name_part : IsPart name
  version_part : IsPart version
  release_part : IsPart release
  arch_part : IsPart arch
  summary_no_end : '\n' ∉ summary

namespace Entry

/-- The word for the package. -/
def word (e : Entry) : List Char :=
  e.name ++ '-' :: (e.version ++ '-' :: (e.release ++ '.' :: e.arch))

/-- The package. -/
def package (e : Entry) : String := String.ofList e.word

/-- The line of the entry. -/
def chars (e : Entry) : List Char := e.word ++ ' ' :: ':' :: ' ' :: e.summary

/-- Nothing stands in the summary. -/
def IsBare (e : Entry) : Prop := ∀ c ∈ e.summary, Text.isBlank c

instance (e : Entry) : Decidable e.IsBare :=
  List.decidableBAll (fun c => Text.isBlank c) e.summary

theorem no_blank (e : Entry) : ∀ c ∈ e.word, Text.isBlank c = false := by
  have hmarks : Text.isBlank '-' = false ∧ Text.isBlank '.' = false := ⟨rfl, rfl⟩
  intro c hc
  simp only [word, List.mem_append, List.mem_cons] at hc
  rcases hc with hc | rfl | hc | rfl | hc | rfl | hc
  · exact e.name_part.no_blank c hc
  · exact hmarks.1
  · exact e.version_part.no_blank c hc
  · exact hmarks.1
  · exact e.release_part.no_blank c hc
  · exact hmarks.2
  · exact e.arch_part.no_blank c hc

/-- The word for a package is cut at the dash before the version and at the point before the
architecture. -/
theorem isPackageName_word (e : Entry) : isPackageName e.word := by
  rw [isPackageName_iff]
  refine ⟨e.name, e.version ++ '-' :: e.release, e.arch, e.name_part.ne_nil, by simp,
    e.arch_part.ne_nil, ?_⟩
  simp [word]

/-- The line of an entry shows the package, unless nothing stands in the summary. -/
theorem packageOfLine?_chars (e : Entry) :
    packageOfLine? e.chars = if e.IsBare then none else some e.package := by
  have hblank : ∀ c ∈ [' '], Text.isBlank c := by simp [Text.isBlank]
  by_cases hbare : e.IsBare
  · -- the blank behind the colon is dropped with the summary
    have hsplit : e.chars = (e.word ++ [' ', ':']) ++ ' ' :: e.summary := by simp [chars]
    have hend : ∀ c ∈ ' ' :: e.summary, Text.isBlank c := List.forall_mem_cons.mpr ⟨rfl, hbare⟩
    have hcolon : ∀ c ∈ (e.word ++ [' ', ':']).getLast?, Text.isBlank c = false := by
      intro c hc
      simp at hc
      rw [← hc]
      rfl
    have htrim : Text.trimEndChars e.chars = e.word ++ [' ', ':'] := by
      rw [hsplit, Text.trimEndChars_append_blanks _ hend, Text.trimEndChars_eq_self hcolon]
    rw [if_pos hbare, packageOfLine?_of_trim htrim e.no_blank (by simp [Text.isBlank])]
    have hmark : isColumnMark [' ', ':'] = false := rfl
    rw [hmark, Bool.and_false]
    rfl
  · have hsplit : e.chars = (e.word ++ [' ', ':', ' ']) ++ e.summary := by simp [chars]
    have hne : Text.trimEndChars e.summary ≠ [] := by
      intro hnil
      obtain ⟨after, hsummary, hafter⟩ := Text.exists_trimEndChars_append e.summary
      rw [hnil, List.nil_append] at hsummary
      exact hbare fun c hc => hafter c (hsummary ▸ hc)
    have htrim : Text.trimEndChars e.chars
        = e.word ++ ' ' :: ':' :: ' ' :: Text.trimEndChars e.summary := by
      rw [hsplit, Text.trimEndChars_append, if_neg hne]
      simp
    rw [if_neg hbare, packageOfLine?_of_trim htrim e.no_blank (by simp [Text.isBlank])]
    have hmark (rest : List Char) : isColumnMark (' ' :: ':' :: ' ' :: rest) = true := rfl
    rw [hmark, e.isPackageName_word]
    rfl

end Entry

/-- What stands before the repository of an entry. -/
def repositoryLead : List Char := ['R', 'e', 'p', 'o', '\t', ' ', ':', ' ']

/-- A line of a listing: an entry, the repository that an entry comes from, or blanks. -/
inductive Line
  | entry (e : Entry)
  | repository (id : List Char) (hend : '\n' ∉ id)
  | blank (cs : List Char) (hblank : ∀ c ∈ cs, Text.isBlank c ∧ c ≠ '\n')

namespace Line

/-- The characters of the line. -/
def chars : Line → List Char
  | entry e => e.chars
  | repository id _ => repositoryLead ++ id
  | blank cs _ => cs

/-- The entry on the line. -/
def listed? : Line → Option Entry
  | entry e => some e
  | _ => none

/-- The package that the line shows. -/
def shown? (line : Line) : Option String :=
  line.listed?.bind fun e => if e.IsBare then none else some e.package

theorem packageOfLine?_chars (line : Line) : packageOfLine? line.chars = line.shown? := by
  match line with
  | entry e => exact e.packageOfLine?_chars
  | blank cs hblank =>
    have htrim : Text.trimEndChars cs = [] := Text.trimEndChars_eq_nil fun c hc => (hblank c hc).1
    exact @packageOfLine?_of_trim cs [] [] htrim (by simp) (by simp)
  | repository id _ =>
    -- the word is not one for a package, whatever is dropped at the end of the line
    have htrim : ∃ more, Text.trimEndChars (repositoryLead ++ id)
        = ['R', 'e', 'p', 'o'] ++ '\t' :: more := by
      rw [Text.trimEndChars_append]
      by_cases hid : Text.trimEndChars id = []
      · rw [if_pos hid]
        exact ⟨[' ', ':'], rfl⟩
      · rw [if_neg hid]
        exact ⟨_, rfl⟩
    obtain ⟨more, hmore⟩ := htrim
    have hword : ∀ c ∈ ['R', 'e', 'p', 'o'], Text.isBlank c = false := by simp [Text.isBlank]
    rw [chars, packageOfLine?_of_trim hmore hword (by simp [Text.isBlank])]
    rfl

theorem not_mem_chars (line : Line) : '\n' ∉ line.chars := by
  match line with
  | repository id hend => simp [chars, repositoryLead, hend]
  | blank cs hblank => exact fun hmem => (hblank _ hmem).2 rfl
  | entry e =>
    have hword : '\n' ∉ e.word := by
      intro hmem
      exact absurd (e.no_blank _ hmem) (by decide)
    simp [chars, Entry.chars, hword, e.summary_no_end]

end Line

/-! ### Listings -/

/-- How a line ends: with a line feed, or with a carriage return and a line feed. -/
inductive LineEnd
  | feed
  | returnAndFeed

/-- What stands between a line and its line feed. -/
def LineEnd.beforeFeed : LineEnd → List Char
  | feed => []
  | returnAndFeed => ['\r']

/-- The text of some lines, each with its own end. The last one lacks its line feed; to a listing that
ends in one belongs an empty line at the end. -/
def listing (ls : List (Line × LineEnd)) : String :=
  String.ofList (Text.joinWith '\n' (ls.map fun l => l.1.chars ++ l.2.beforeFeed))

/-- The entries of some lines. -/
def entries (ls : List (Line × LineEnd)) : List Entry := ls.filterMap fun l => l.1.listed?

/-- The packages of some entries, each where it first stands. -/
def packages (es : List Entry) : List String := (es.map Entry.package).eraseDups

/-- The packages that a listing shows are those of its entries in whose summaries something stands. -/
theorem parse_listing (ls : List (Line × LineEnd)) :
    parse (listing ls) = packages ((entries ls).filter fun e => ¬ e.IsBare) := by
  have hline (l : Line × LineEnd) :
      packageOfLine? (l.1.chars ++ l.2.beforeFeed) = l.1.shown? := by
    have hend : ∀ c ∈ l.2.beforeFeed, Text.isBlank c := by
      intro c hc
      cases hl : l.2 with
      | feed => simp [hl, LineEnd.beforeFeed] at hc
      | returnAndFeed =>
        rw [hl, LineEnd.beforeFeed, List.mem_singleton] at hc
        rw [hc]
        rfl
    rw [← l.1.packageOfLine?_chars, packageOfLine?, packageOfLine?,
      Text.trimEndChars_append_blanks _ hend]
  have hshown : ls.filterMap (fun l => l.1.shown?)
      = ((entries ls).filter fun e => ¬ e.IsBare).map Entry.package := by
    induction ls with
    | nil => rfl
    | cons l rest ih =>
      rw [List.filterMap_cons, ih, Line.shown?, entries, entries, List.filterMap_cons]
      cases l.1.listed? with
      | none => rfl
      | some e => by_cases hbare : e.IsBare <;> simp [hbare]
  rw [parse, listing, String.toList_ofList, packages, ← hshown,
    Text.filterMap_lines packageOfLine?_dropReturn rfl]
  by_cases hne : ls = []
  · rw [hne]
    rfl
  · rw [Text.splitAtEach_joinWith (by simpa using hne), List.filterMap_map]
    · exact congrArg (fun f => (ls.filterMap f).eraseDups) (funext hline)
    · intro piece hpiece
      obtain ⟨l, -, rfl⟩ := List.mem_map.mp hpiece
      cases l.2 <;> simp [LineEnd.beforeFeed, l.1.not_mem_chars]

theorem mem_packages {es : List Entry} {package : String} :
    package ∈ packages es ↔ ∃ e ∈ es, e.package = package := by
  rw [packages, List.mem_eraseDups, List.mem_map]

/-- What a listing shows of the packages that it has entries for: all of them in their order, if
something stands in every summary. A package is overlooked exactly if nothing stands in any of its
summaries. -/
theorem overlooked_iff (ls : List (Line × LineEnd)) :
    parse (listing ls) = packages ((entries ls).filter fun e => ¬ e.IsBare)
      ∧ ((∀ e ∈ entries ls, ¬ e.IsBare) → parse (listing ls) = packages (entries ls))
      ∧ ∀ package ∈ packages (entries ls), package ∉ parse (listing ls)
        ↔ ∀ e ∈ entries ls, e.package = package → e.IsBare := by
  refine ⟨parse_listing ls, fun hall => ?_, fun package _ => ?_⟩
  · have hfilter : (entries ls).filter (fun e => ¬ e.IsBare) = entries ls :=
      List.filter_eq_self.mpr fun e he => by simpa using hall e he
    rw [parse_listing, hfilter]
  · rw [parse_listing, mem_packages]
    constructor
    · intro hnone e he hpackage
      by_contra hbare
      exact hnone ⟨e, List.mem_filter.mpr ⟨he, by simpa using hbare⟩, hpackage⟩
    · rintro hbare ⟨e, he, hpackage⟩
      obtain ⟨hmem, hsome⟩ := List.mem_filter.mp he
      exact of_decide_eq_true hsome (hbare e hmem hpackage)

/-- A package without a summary, and where it comes from. -/
def bareListing : List (Line × LineEnd) :=
  [(.entry ⟨['z', 'l', 'i', 'b'], ['1', '.', '2'], ['1'], ['x'], [],
      ⟨by simp, by simp [Text.isBlank]⟩, ⟨by simp, by simp [Text.isBlank]⟩,
      ⟨by simp, by simp [Text.isBlank]⟩, ⟨by simp, by simp [Text.isBlank]⟩, by simp⟩, .feed),
    (.repository ['b', 'a', 's', 'e'] (by simp), .feed), (.blank [] (by simp), .feed)]

/-- The listing does not show all its packages: it has one, and shows none. -/
theorem not_all_shown_bareListing :
    listing bareListing = "zlib-1.2-1.x : \nRepo\t : base\n"
      ∧ parse (listing bareListing) ≠ packages (entries bareListing)
      ∧ parse (listing bareListing) = [] := by
  decide +kernel

end RpmProvision.Listing.Provides
