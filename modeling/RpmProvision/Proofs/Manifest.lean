/-
What a manifest lists.

* **`nameOfLine?_eq_some_iff`** — the lines that name an RPM;
* **`lists_parse_iff`** — the RPMs that the manifest of a text lists.
-/
import RpmProvision.Manifest
import RpmProvision.Proofs.SortedMap
import RpmProvision.Proofs.Text

namespace RpmProvision.Manifest

/-- A line names an RPM if there is something between the blanks at its ends, and that does not start
with `#`. -/
structure Names (line : List Char) (name : String) : Prop where
  trimmed : Text.TrimsTo line name.toList
  ne_empty : name ≠ ""
  not_comment : name.toList.head? ≠ some '#'

theorem nameOfLine?_eq_some_iff {line : List Char} {name : String} :
    nameOfLine? line = some name ↔ Names line name := by
  rw [nameOfLine?]
  cases htrim : Text.trimChars line with
  | nil =>
    constructor
    · intro h
      cases h
    · intro h
      rw [Text.trimChars_eq_iff.mpr h.trimmed] at htrim
      exact absurd (String.toList_eq_nil_iff.mp htrim) h.ne_empty
  | cons c cs =>
    dsimp only
    by_cases hc : c = '#'
    · rw [if_pos hc]
      constructor
      · intro h
        cases h
      · intro h
        rw [Text.trimChars_eq_iff.mpr h.trimmed] at htrim
        exact absurd (by rw [htrim, hc]; rfl) h.not_comment
    · rw [if_neg hc, Option.some.injEq]
      constructor
      · rintro rfl
        refine ⟨?_, ?_, ?_⟩
        · rw [String.toList_ofList]
          exact Text.trimChars_eq_iff.mp htrim
        · simp
        · simp [hc]
      · intro h
        rw [← htrim, Text.trimChars_eq_iff.mpr h.trimmed, String.ofList_toList]

/-- A carriage return at the end of a line makes no difference. -/
theorem nameOfLine?_dropReturn (line : List Char) :
    nameOfLine? (Text.dropReturn line) = nameOfLine? line := by
  rw [nameOfLine?, nameOfLine?, Text.trimChars_dropReturn]

theorem lists_ofList {names : List String} {rpm : Path} :
    (ofList names).lists rpm ↔ ∃ name, rpm.fileName? = some name ∧ name ∈ names := by
  rw [lists]
  cases rpm.fileName? with
  | none => simp
  | some name =>
    have hkeys : (names.map fun n => (n, ())).map Prod.fst = names := by
      rw [List.map_map]
      exact List.map_id names
    dsimp only
    rw [ofList, SortedMap.contains_iff_mem_keys, SortedMap.mem_keys_ofList, hkeys]
    simp

/-- The manifest of a text lists an RPM if a line of the text names its file. -/
theorem lists_parse_iff {text : String} {rpm : Path} :
    (parse text).lists rpm ↔ ∃ name, rpm.fileName? = some name
      ∧ ∃ line ∈ Text.splitAtEach '\n' text.toList, Names line name := by
  rw [parse, Text.filterMap_lines nameOfLine?_dropReturn rfl, lists_ofList]
  simp only [List.mem_filterMap, nameOfLine?_eq_some_iff]

/-- Where the file name is known, it is the name that a line has to give. -/
theorem lists_parse_of_fileName? {text name : String} {rpm : Path}
    (h : rpm.fileName? = some name) :
    (parse text).lists rpm ↔ ∃ line ∈ Text.splitAtEach '\n' text.toList, Names line name := by
  rw [lists_parse_iff, h]
  simp

example : (parse "# toolchain\r\n\n  gcc.rpm \r\n#zlib.rpm").lists ⟨"/out/gcc.rpm"⟩ = true := by
  decide +kernel

end RpmProvision.Manifest
