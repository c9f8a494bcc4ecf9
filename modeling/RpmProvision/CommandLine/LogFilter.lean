/-
Log filters, and the text of a log.

A filter is a list of rules at commas. For each event the rule with the longest target decides, of
those with one target the rule with the most fields, and of these the last one. Without a rule for
it an event is dropped.

* **`parse?`** — the filter of a text;
* **`admits`** — whether an event passes;
* **`lineOf`** — an event as a line of a log.
-/
import RpmProvision.CommandLine.LogRule

namespace RpmProvision.CommandLine

/-- The rules of a filter. -/
structure LogFilter where
  rules : List LogRule
  deriving DecidableEq

namespace LogFilter

/-- The filter of a text. -/
def parse? (text : String) : Option LogFilter :=
  (((Text.splitAtEach ',' text.toList).filter (· ≠ [])).mapM LogRule.parse?).map LogFilter.mk

/-- The closer rule; of two alike the later one. -/
def closer (best : Option LogRule) (r : LogRule) : Option LogRule :=
  match best with
  | none => some r
  | some b =>
    let (target, fields) := r.closeness
    if b.closeness.1 < target ∨ (b.closeness.1 = target ∧ b.closeness.2 ≤ fields) then some r
    else some b

/-- The rule that decides about a part. -/
def ruleFor? (f : LogFilter) (source : Source) : Option LogRule :=
  (f.rules.filter (·.concerns source)).foldl closer none

/-- Whether an event passes. -/
def admits (f : LogFilter) (e : Event) : Bool :=
  match f.ruleFor? e.source with
  | some r => e.level.rank ≤ r.rank
  | none => false

/-- The filter unless another one is asked for. -/
def standard : LogFilter := ⟨[⟨none, [], false, Level.info.rank⟩]⟩

end LogFilter

/-! ### Text of a log -/

/-- A control character as it is shown; line feeds and tabs stay. -/
def shownChar (c : Char) : List Char :=
  if c = '\x1b' then ['\\', 'x', '1', 'b']
  else if c = '\x07' then ['\\', 'x', '0', '7']
  else if c = '\x08' then ['\\', 'x', '0', '8']
  else if c = '\x0c' then ['\\', 'x', '0', 'c']
  else if c = '\x7f' then ['\\', 'x', '7', 'f']
  else if 0x80 ≤ c.toNat && c.toNat ≤ 0x9f then
    ['\\', 'u', '\x7b'] ++ Nat.toDigits 16 c.toNat ++ ['\x7d']
  else [c]

/-- The time that lines of a log bear, whenever they were written. -/
def timeText : String := "2000-01-01T00:00:00.000000Z"

/-- The name of a level, with a blank before the short ones. -/
def paddedLabel (l : Level) : String := (if l.label.length < 5 then " " else "") ++ l.label

/-- An event as a line of a log. -/
def lineOf (e : Event) : String :=
  timeText ++ " " ++ paddedLabel e.level ++ " " ++ e.source.label ++ ": "
    ++ String.ofList (e.message.toList.flatMap shownChar) ++ "\n"

/-- The line of an event that passes; nothing for other events. -/
def LogFilter.lineOf (f : LogFilter) (e : Event) : String :=
  if f.admits e then CommandLine.lineOf e else ""

/-- The log of some events. -/
def LogFilter.textOf (f : LogFilter) (events : List Event) : String :=
  String.join (events.map f.lineOf)

end RpmProvision.CommandLine
