/-
Debug output of a package transaction.

A line `D: ===== +++ nevr arch-linux ...` says that a package takes part in the transaction. The
package is `nevr.arch`, and its RPM is the file of this name.

* **`packageOfLine?`** — the package that a line adds;
* **`parse`** — the packages of a transaction, each where it is first added.
-/
import RpmProvision.Text.Blank
import RpmProvision.Text.Lines
import RpmProvision.Disk.Path

namespace RpmProvision.Listing.Transaction

/-- The rest of a text after a beginning that must be there. -/
def after? (beginning : List Char) (cs : List Char) : Option (List Char) :=
  if beginning.isPrefixOf cs then some (cs.drop beginning.length) else none

/-- The mark that follows an architecture. -/
def systemMark : List Char := ['-', 'l', 'i', 'n', 'u', 'x']

/-- What stands in a word before the first mark that is not at its beginning. -/
def beforeMark? : List Char → Option (List Char)
  | [] => none
  | c :: rest =>
    if systemMark.isPrefixOf rest then some [c] else (beforeMark? rest).map (c :: ·)

/-- The rest of a line after `D: `, one or more equals signs, and ` +++ `. -/
def afterLead? (line : List Char) : Option (List Char) :=
  (after? ['D', ':', ' ', '='] line).bind fun rest =>
    after? [' ', '+', '+', '+', ' '] (rest.dropWhile (· = '='))

/-- The package that a line adds. -/
def packageOfLine? (line : List Char) : Option String :=
  (afterLead? (Text.trimEndChars line)).bind fun rest =>
    let nevr := rest.takeWhile (!Text.isBlank ·)
    if nevr = [] then none
    else
      match rest.dropWhile (!Text.isBlank ·) with
      | ' ' :: rest =>
        (beforeMark? (rest.takeWhile (!Text.isBlank ·))).map fun arch =>
          String.ofList (nevr ++ '.' :: arch)
      | _ => none

/-- The packages that a transaction adds. -/
def parse (text : String) : List String :=
  ((Text.lines text.toList).filterMap packageOfLine?).eraseDups

/-- The RPMs of the packages that a transaction adds, as files of one directory. -/
def rpmPaths (text : String) (dir : Path) : List Path :=
  (parse text).map fun package => dir.child (package ++ ".rpm")

end RpmProvision.Listing.Transaction
