/-
Listings of the packages that provide something.

A line of such a listing shows a package as `name : summary`. The name is the word that the line
starts with; it looks like `n-v-r.a`. Other lines are passed over.

* **`packageOfLine?`** — the package that a line shows;
* **`parse`** — the packages of a listing, each where it is first shown.
-/
import RpmProvision.Text.Blank
import RpmProvision.Text.Lines

namespace RpmProvision.Listing.Provides

/-- Whether a word can be cut as `x-y.z` into parts that are not empty. The first dash after the
first character leaves the most room for the point. -/
def isPackageName (word : List Char) : Bool :=
  match (word.drop 1).dropWhile (· ≠ '-') with
  | [] => false
  | _ :: rest => (rest.drop 1).dropLast.contains '.'

/-- Whether the text after the first word is blanks, a colon and a blank. -/
def isColumnMark (rest : List Char) : Bool :=
  match rest, rest.dropWhile Text.isBlank with
  | c :: _, ':' :: d :: _ => Text.isBlank c && Text.isBlank d
  | _, _ => false

/-- The package that a line shows. -/
def packageOfLine? (line : List Char) : Option String :=
  let line := Text.trimEndChars line
  let word := line.takeWhile (!Text.isBlank ·)
  if isPackageName word && isColumnMark (line.dropWhile (!Text.isBlank ·)) then
    some (String.ofList word)
  else none

/-- The packages that a listing shows. -/
def parse (text : String) : List String :=
  ((Text.lines text.toList).filterMap packageOfLine?).eraseDups

end RpmProvision.Listing.Provides
