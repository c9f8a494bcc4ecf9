/-
Rules of log filters.

A rule is a level, a target, or a target, an equals sign and a level. A level is a word or a number;
a target without a level lets everything through. In square brackets a rule can name a span, and in
braces the fields that an event must have. The program has no spans, and its events have a message
and no other fields.

A rule may stand between blanks, but its parts are cut out as if there were none before it.

* **`parse?`** — the rule of a text;
* **`concerns`** — whether the rule decides about the events of a part of the program.
-/
import RpmProvision.Event
import RpmProvision.Text.Alphanumeric
import RpmProvision.Text.Blank
import RpmProvision.Text.Lines
import RpmProvision.Text.Numeral

namespace RpmProvision

/-- How many levels reach up to a level, from the most serious one on. -/
def Level.rank : Level → Nat
  | .error => 1
  | .warn => 2
  | .info => 3
  | .debug => 4

namespace CommandLine

/-- Lets events through up to a rank. -/
structure LogRule where
  /-- Concerns the parts whose names start with this; all parts if absent. -/
  target : Option (List Char)
  /-- Concerns the events that have these fields. -/
  fields : List (List Char)
  /-- Concerns only what happens in a span or has a field with a certain value. -/
  isSpecial : Bool
  rank : Nat
  deriving DecidableEq

/-- The rank beyond all levels. -/
def maxRank : Nat := 5

/-- The words for the ranks from zero on. -/
def rankWords : List (List Char) :=
  [['o', 'f', 'f'], ['e', 'r', 'r', 'o', 'r'], ['w', 'a', 'r', 'n'], ['i', 'n', 'f', 'o'],
    ['d', 'e', 'b', 'u', 'g'], ['t', 'r', 'a', 'c', 'e']]

/-- The rank that a word or a number stands for. -/
def rankOf? (text : List Char) : Option Nat :=
  ((Text.numeral? 10 text).filter (· ≤ maxRank)).or
    (rankWords.findIdx? (· = text.map Char.toLower))

/-- The only field that events have. -/
def messageField : List Char := ['m', 'e', 's', 's', 'a', 'g', 'e']

namespace LogRule

/-- Whether a rule may start with a character. -/
def mayStart (c : Char) : Bool :=
  c = '[' || c = '-' || c = ':' || c = '_' || Text.isAlphanumeric c

/-- The rank after the equals sign of a rule; without a level it is that of everything. -/
def rankAfter? (level : List Char) : Option Nat :=
  if level = [] then some maxRank else rankOf? level

/-- A rule that is a level, or else a target. -/
def ofWord (word : List Char) : LogRule :=
  match rankOf? word with
  | some rank => ⟨none, [], false, rank⟩
  | none => ⟨some word, [], false, maxRank⟩

/-- Finish a rule after its brackets: `text` has the rule from there on as it is cut out. -/
def closed? (r : LogRule) (text : List Char) : List Char → Option LogRule
  | [] => some r
  | '=' :: _ => (rankAfter? (text.drop 1)).map fun rank => { r with rank }
  | _ => none

/-- Read the rest of a rule after its opening brace. -/
def fieldsOf? (r : LogRule) (text cs : List Char) : Option LogRule :=
  let size := (cs.takeWhile (· ≠ '}')).length
  match cs.drop size with
  | '}' :: ']' :: rest =>
    let (name, value) := match Text.splitAtFirst? '=' (text.take size) with
      | some (name, _) => (name, true)
      | none => (text.take size, false)
    if text.take size = [] then none
    else
      closed? { r with fields := [name], isSpecial := r.isSpecial || value }
        (text.drop (size + 2)) rest
  | _ => none

/-- Read the rest of a rule after its opening bracket. -/
def spanOf? (r : LogRule) (text cs : List Char) : Option LogRule :=
  let size := (cs.takeWhile fun c => c ≠ ']' && c ≠ '{').length
  match cs.drop size with
  | ']' :: rest => closed? { r with isSpecial := true } (text.drop (size + 1)) rest
  | '{' :: rest =>
    fieldsOf? { r with isSpecial := text.take size ≠ [] } (text.drop (size + 1)) rest
  | _ => none

/-- The rule of a text. -/
def parse? (text : List Char) : Option LogRule :=
  let cs := Text.trimChars text
  let size := (cs.takeWhile fun c => c ≠ '=' && c ≠ '[').length
  if !(cs.head?.any mayStart) then none
  else
    match cs.drop size with
    | [] => some (ofWord text)
    | '=' :: _ =>
      (rankAfter? (text.drop (size + 1))).map fun rank => ⟨some (text.take size), [], false, rank⟩
    | _ :: rest =>
      let target := if size = 0 then none else some (text.take size)
      spanOf? ⟨target, [], false, maxRank⟩ (text.drop (size + 1)) rest

/-- Whether the rule decides about the events of a part. -/
def concerns (r : LogRule) (source : Source) : Bool :=
  !r.isSpecial && r.fields.all (· = messageField)
    && match r.target with
      | none => true
      | some target => target.isPrefixOf source.label.toList

/-- How closely the rule names what it concerns: by its target first, and then by its fields. -/
def closeness (r : LogRule) : Nat × Nat :=
  (match r.target with
    | none => 0
    | some target => target.length, r.fields.length)

end LogRule

end CommandLine

end RpmProvision
