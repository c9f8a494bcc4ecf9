/-
Which words the lines of a listing show.

A line shows a word if it begins with the word, blanks, a colon and a blank, and something stands
behind that. The word has no blank in it and can be cut at a dash and at a later point into three parts
that are not empty, wherever these may be. A pattern for such lines may fit the beginning of a line in
many ways, but it captures the same word in all of them: the one that ends where the first blanks of
the line begin.

* **`Begins`**, **`Shows`** — the lines that show a word;
* **`captured?_linePattern_iff`** — what the pattern captures, whatever the order in which it is tried;
* **`packageOfLine?_eq_some_iff`** — the package of a line is the word that the line shows;
* **`shown_in_order`** — the packages of a listing are the words that its lines show.
-/
import RpmProvision.Proofs.Distinct
import RpmProvision.Proofs.Listing.Provides
import RpmProvision.Proofs.Text.Pattern

namespace RpmProvision.Listing.Provides

variable {cs line word rest : List Char} {groups : List (List Char)}

/-! ### Lines that show a word -/

/-- A word without blanks that can be cut at a dash and at a later point into three parts that are not
empty. -/
structure IsPackageWord (word : List Char) : Prop where
  no_blank : ∀ c ∈ word, Text.isBlank c = false
  cut : ∃ x y z, x ≠ [] ∧ y ≠ [] ∧ z ≠ [] ∧ word = x ++ '-' :: (y ++ '.' :: z)

/-- A text begins with such a word, blanks, a colon and a blank. -/
structure Begins (cs word rest : List Char) : Prop where
  package_word : IsPackageWord word
  column : ∃ gap d, gap ≠ [] ∧ (∀ c ∈ gap, Text.isBlank c) ∧ Text.isBlank d
    ∧ cs = word ++ (gap ++ ':' :: d :: rest)

/-- Without the blanks at its end, the line begins with the word, blanks, a colon and a blank, and
something more stands behind them. -/
def Shows (line word : List Char) : Prop :=
  ∃ core rest, Text.TrimsEndTo line core ∧ Begins core word rest ∧ rest ≠ []

/-- The word ends where the first blanks begin. -/
theorem Begins.takeWhile_eq (h : Begins cs word rest) :
    cs.takeWhile (!Text.isBlank ·) = word := by
  obtain ⟨gap, d, hne, hgap, -, rfl⟩ := h.column
  obtain ⟨c, gap, rfl⟩ := List.exists_cons_of_ne_nil hne
  have hc : Text.isBlank c := hgap c List.mem_cons_self
  rw [Text.takeWhile_word h.package_word.no_blank, List.cons_append,
    List.takeWhile_cons_of_neg (by simp [hc]), List.append_nil]

/-- The blank behind the colon is not at the end of a text without blanks there. -/
theorem Begins.rest_ne_nil {core : List Char} (h : Begins core word rest)
    (htrim : Text.TrimsEndTo line core) : rest ≠ [] := by
  intro hnil
  obtain ⟨gap, d, -, -, hd, hcore⟩ := h.column
  have hlast : Text.isBlank d = false := htrim.last d (by simp [hcore, hnil])
  rw [hd] at hlast
  cases hlast

theorem shows_iff : Shows line word ↔ ∃ rest, Begins (Text.trimEndChars line) word rest := by
  constructor
  · rintro ⟨core, rest, htrim, hbegins, -⟩
    rw [Text.trimEndChars_eq_iff.mpr htrim]
    exact ⟨rest, hbegins⟩
  · rintro ⟨rest, hbegins⟩
    have htrim : Text.TrimsEndTo line (Text.trimEndChars line) := Text.trimEndChars_eq_iff.mp rfl
    exact ⟨_, rest, htrim, hbegins, hbegins.rest_ne_nil htrim⟩

/-! ### The pattern of a line -/

/-- Characters that are not blank, at least one: `\S+`. -/
def partPattern : Text.Pattern := .run (!Text.isBlank ·)

/-- Three parts with a dash and a point between them: `\S+-\S+\.\S+`. -/
def wordPattern : Text.Pattern :=
  partPattern ++ (.char '-' ++ (partPattern ++ (.char '.' ++ partPattern)))

/-- A word is captured that blanks, a colon and a blank follow: `(\S+-\S+\.\S+)\s+:\s`. -/
def linePattern : Text.Pattern :=
  .group wordPattern ++ (.run Text.isBlank ++ (.char ':' ++ .one Text.isBlank))

theorem fits_wordPattern_iff : wordPattern.Fits word groups ↔ IsPackageWord word ∧ groups = [] := by
  have hmarks : Text.isBlank '-' = false ∧ Text.isBlank '.' = false := ⟨rfl, rfl⟩
  simp only [wordPattern, partPattern, Text.Pattern.fits_run_append_iff,
    Text.Pattern.fits_char_append_iff, Text.Pattern.fits_run_iff, Bool.not_eq_true']
  constructor
  · rintro ⟨x, -, hx, hxs, ⟨-, ⟨y, -, hy, hys, ⟨z, ⟨hz, hzs, hgroups⟩, rfl⟩, rfl⟩, rfl⟩, rfl⟩
    refine ⟨⟨?_, x, y, z, hx, hy, hz, rfl⟩, hgroups⟩
    simp only [List.forall_mem_append, List.forall_mem_cons]
    exact ⟨hxs, hmarks.1, hys, hmarks.2, hzs⟩
  · rintro ⟨⟨hall, x, y, z, hx, hy, hz, rfl⟩, hgroups⟩
    simp only [List.forall_mem_append, List.forall_mem_cons] at hall
    obtain ⟨hxs, -, hys, -, hzs⟩ := hall
    exact ⟨x, _, hx, hxs, ⟨_, ⟨y, _, hy, hys, ⟨z, ⟨hz, hzs, hgroups⟩, rfl⟩, rfl⟩, rfl⟩, rfl⟩

/-- The pattern fits a text up to the blank behind the colon. -/
theorem fits_linePattern_iff {taken : List Char} :
    linePattern.Fits taken groups ↔ ∃ word, Begins taken word [] ∧ groups = [word] := by
  simp only [linePattern, Text.Pattern.fits_group_append_iff, Text.Pattern.fits_run_append_iff,
    Text.Pattern.fits_char_append_iff, Text.Pattern.fits_one_iff, fits_wordPattern_iff]
  constructor
  · rintro ⟨word, -, -, -, ⟨hword, rfl⟩,
      ⟨gap, -, hne, hgap, ⟨-, ⟨d, hd, rfl, rfl⟩, rfl⟩, rfl⟩, rfl, rfl⟩
    exact ⟨word, ⟨hword, gap, d, hne, hgap, hd, rfl⟩, rfl⟩
  · rintro ⟨word, ⟨hword, gap, d, hne, hgap, hd, rfl⟩, rfl⟩
    exact ⟨word, _, [], [], ⟨hword, rfl⟩,
      ⟨gap, _, hne, hgap, ⟨[d], ⟨d, hd, rfl, rfl⟩, rfl⟩, rfl⟩, rfl, rfl⟩

/-- In every way in which the pattern fits, it captures the word that the text begins with. -/
theorem mem_ways_linePattern_iff {w : Text.Pattern.Way} : w ∈ linePattern.ways cs ↔
    ∃ word, Begins cs word w.rest ∧ w.groups = [word] ∧ cs = w.taken ++ w.rest := by
  rw [Text.Pattern.mem_ways_iff, fits_linePattern_iff]
  constructor
  · rintro ⟨hcs, word, ⟨hword, gap, d, hne, hgap, hd, htaken⟩, hgroups⟩
    -- the rest of the text stands behind what is taken, which ends with the blank behind the colon
    refine ⟨word, ⟨hword, gap, d, hne, hgap, hd, ?_⟩, hgroups, hcs⟩
    rw [hcs, htaken]
    simp
  · rintro ⟨word, ⟨hword, gap, d, hne, hgap, hd, hbegins⟩, hgroups, hcs⟩
    refine ⟨hcs, word, ⟨hword, gap, d, hne, hgap, hd, ?_⟩, hgroups⟩
    have hsplit : w.taken ++ w.rest = (word ++ (gap ++ [':', d])) ++ w.rest := by
      rw [← hcs, hbegins]
      simp
    exact List.append_cancel_right hsplit

/-- The pattern captures a word if the text begins with it, blanks, a colon and a blank. -/
theorem captured?_linePattern_iff :
    linePattern.captured? cs = some word ↔ ∃ rest, Begins cs word rest := by
  -- the word ends at the first blank of the text, so it is the same in all ways
  have hfirst (w) (hw : w ∈ linePattern.ways cs) :
      w.groups.head? = some (cs.takeWhile (!Text.isBlank ·)) := by
    obtain ⟨word, hbegins, hgroups, -⟩ := mem_ways_linePattern_iff.mp hw
    rw [hgroups, hbegins.takeWhile_eq, List.head?_cons]
  rw [Text.Pattern.captured?_eq_some_iff fun w hw v hv => (hfirst w hw).trans (hfirst v hv).symm]
  constructor
  · rintro ⟨w, hw, hword⟩
    obtain ⟨word', hbegins, hgroups, -⟩ := mem_ways_linePattern_iff.mp hw
    rw [hgroups, List.head?_cons, Option.some.injEq] at hword
    exact ⟨w.rest, hword ▸ hbegins⟩
  · rintro ⟨rest, hbegins⟩
    obtain ⟨gap, d, -, -, -, hcs⟩ := hbegins.column
    refine ⟨⟨word ++ (gap ++ [':', d]), [word], rest⟩, ?_, rfl⟩
    exact mem_ways_linePattern_iff.mpr ⟨word, hbegins, rfl, by simp [hcs]⟩

/-! ### Reading a line -/

theorem isColumnMark_iff : isColumnMark cs ↔ ∃ gap d rest, gap ≠ [] ∧ (∀ c ∈ gap, Text.isBlank c)
    ∧ Text.isBlank d ∧ cs = gap ++ ':' :: d :: rest := by
  constructor
  · intro h
    unfold isColumnMark at h
    split at h
    · next c cs d rest hdrop =>
      rw [Bool.and_eq_true] at h
      obtain ⟨hc, hd⟩ := h
      have hsplit := List.takeWhile_append_dropWhile (p := Text.isBlank) (l := c :: cs)
      rw [hdrop] at hsplit
      have hne : (c :: cs).takeWhile Text.isBlank ≠ [] := by
        rw [List.takeWhile_cons_of_pos hc]
        exact List.cons_ne_nil _ _
      exact ⟨_, d, rest, hne, fun b hb => List.mem_takeWhile_imp hb, hd, hsplit.symm⟩
    · cases h
  · rintro ⟨gap, d, rest, hne, hgap, hd, rfl⟩
    have hdrop : (gap ++ ':' :: d :: rest).dropWhile Text.isBlank = ':' :: d :: rest := by
      rw [List.dropWhile_append_of_pos hgap]
      rfl
    obtain ⟨c, gap, rfl⟩ := List.exists_cons_of_ne_nil hne
    have hc : Text.isBlank c := hgap c List.mem_cons_self
    unfold isColumnMark
    rw [hdrop]
    simp [hc, hd]

/-- The package of a line is the word that the line shows. -/
theorem packageOfLine?_eq_some_iff {package : String} :
    packageOfLine? line = some package ↔ Shows line package.toList := by
  rw [shows_iff]
  constructor
  · intro h
    rw [packageOfLine?, Option.ite_none_right_eq_some, Bool.and_eq_true] at h
    obtain ⟨⟨hname, hmark⟩, hpackage⟩ := h
    obtain ⟨gap, d, rest, hne, hgap, hd, hrest⟩ := isColumnMark_iff.mp hmark
    rw [← Option.some.inj hpackage, String.toList_ofList]
    refine ⟨rest, ⟨fun c hc => ?_, isPackageName_iff.mp hname⟩, gap, d, hne, hgap, hd, ?_⟩
    · simpa using List.mem_takeWhile_imp hc
    · rw [← hrest, List.takeWhile_append_dropWhile]
  · rintro ⟨rest, ⟨hall, hcut⟩, gap, d, hne, hgap, hd, htrim⟩
    have hhead : ∀ c ∈ (gap ++ ':' :: d :: rest).head?, Text.isBlank c := by
      obtain ⟨c, gap, rfl⟩ := List.exists_cons_of_ne_nil hne
      simpa using hgap c List.mem_cons_self
    rw [packageOfLine?_of_trim htrim hall hhead, isPackageName_iff.mpr hcut,
      isColumnMark_iff.mpr ⟨gap, d, rest, hne, hgap, hd, rfl⟩]
    simp

/-! ### Reading a listing -/

/-- Some line shows the first package, and up to it no line shows the second one. -/
def ShownBefore (lines : List (List Char)) (first second : String) : Prop :=
  ∃ front line back, lines = front ++ line :: back ∧ Shows line first.toList
    ∧ ∀ earlier ∈ front ++ [line], ¬ Shows earlier second.toList

/-- The packages of a listing are the words that its lines show, each once, and in the order in which
they are first shown. A line shows the word that the pattern captures at its beginning. -/
theorem shown_in_order (text : String) :
    (parse text).Nodup
      ∧ (∀ package, package ∈ parse text ↔
        ∃ line ∈ Text.lines text.toList, Shows line package.toList)
      ∧ (parse text).Pairwise (ShownBefore (Text.lines text.toList))
      ∧ ∀ line word, linePattern.captured? (Text.trimEndChars line) = some word ↔ Shows line word := by
  refine ⟨nodup_eraseDups _, fun package => ?_, (pairwise_eraseDups _).imp fun h => ?_,
    fun line word => captured?_linePattern_iff.trans shows_iff.symm⟩
  · rw [parse, List.mem_eraseDups, List.mem_filterMap]
    exact exists_congr fun line => and_congr_right fun _ => packageOfLine?_eq_some_iff
  · obtain ⟨front, line, back, hlines, hfirst, hsecond⟩ := h.of_filterMap
    refine ⟨front, line, back, hlines, packageOfLine?_eq_some_iff.mp hfirst, fun earlier hmem => ?_⟩
    exact fun hshows => hsecond earlier hmem (packageOfLine?_eq_some_iff.mpr hshows)

example : parse ("a-b.c\u00a0\u2003:\u3000x\r\n-a-b.c : y\na-.c : z\na.b-c : w\na-b.c : again\n"
    ++ "x--..y\t: \t.\n d-e.f : g\nd-e.f: g\nd-e.f : ") = ["a-b.c", "-a-b.c", "x--..y"] := by
  decide +kernel

end RpmProvision.Listing.Provides
