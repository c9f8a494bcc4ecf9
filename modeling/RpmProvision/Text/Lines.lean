/-
Texts cut at a separator, and the lines of a text.

* **`joinWith_splitAtEach`** — the pieces joined by the separator give the text back;
* **`occursIn_iff`** — a text occurs in another as a run of its characters;
* **`lines`** — a line ends at a line feed; a carriage return right before it belongs to the end.
-/

namespace RpmProvision.Text

/-- The pieces between the separators; a text without separator is one piece. -/
def splitAtEach (sep : Char) : List Char → List (List Char)
  | [] => [[]]
  | c :: cs =>
    if c = sep then [] :: splitAtEach sep cs
    else
      match splitAtEach sep cs with
      | [] => [[c]]
      | piece :: pieces => (c :: piece) :: pieces

/-- The pieces joined by the separator. -/
def joinWith (sep : Char) : List (List Char) → List Char
  | [] => []
  | [piece] => piece
  | piece :: pieces => piece ++ sep :: joinWith sep pieces

/-- What stands before and after the first separator. -/
def splitAtFirst? (sep : Char) : List Char → Option (List Char × List Char)
  | [] => none
  | c :: cs =>
    if c = sep then some ([], cs)
    else (splitAtFirst? sep cs).map fun p => (c :: p.1, p.2)

/-- Drop one carriage return at the end. -/
def dropReturn (line : List Char) : List Char :=
  if line.getLast? = some '\r' then line.dropLast else line

/-- The lines among the pieces between line feeds: the last piece has no line feed after it, so
it is a line as it stands, or none when empty. -/
def linesOfPieces : List (List Char) → List (List Char)
  | [] => []
  | [last] => if last = [] then [] else [last]
  | piece :: pieces => dropReturn piece :: linesOfPieces pieces

/-- The lines of a text, without their ends. -/
def lines (cs : List Char) : List (List Char) := linesOfPieces (splitAtEach '\n' cs)

/-- Whether the first text occurs somewhere in the second. -/
def occursIn (needle : List Char) : List Char → Bool
  | [] => needle.isEmpty
  | c :: cs => needle.isPrefixOf (c :: cs) || occursIn needle cs

/-- A text occurs in another exactly as a run of its characters. -/
theorem occursIn_iff {needle cs : List Char} : occursIn needle cs ↔ needle <:+: cs := by
  induction cs with
  | nil => simp [occursIn]
  | cons c cs ih =>
    rw [occursIn, Bool.or_eq_true, List.isPrefixOf_iff_prefix, ih, List.infix_cons_iff]

theorem splitAtEach_ne_nil (sep : Char) (cs : List Char) : splitAtEach sep cs ≠ [] := by
  cases cs with
  | nil => simp [splitAtEach]
  | cons c cs => rw [splitAtEach]; split <;> (try split) <;> simp

theorem joinWith_splitAtEach (sep : Char) (cs : List Char) :
    joinWith sep (splitAtEach sep cs) = cs := by
  induction cs with
  | nil => rfl
  | cons c cs ih =>
    rw [splitAtEach]
    obtain ⟨piece, pieces, h⟩ := List.exists_cons_of_ne_nil (splitAtEach_ne_nil sep cs)
    rw [h] at ih
    split
    · next e => rw [h, joinWith, ih, e]; rfl; exact List.cons_ne_nil _ _
    · rw [h]
      cases pieces with
      | nil => simpa [joinWith] using ih
      | cons q qs => simpa [joinWith] using ih

end RpmProvision.Text
