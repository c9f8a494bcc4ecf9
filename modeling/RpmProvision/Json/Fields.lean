/-
Records read from JSON documents.

A record of named fields is written as an object, whose members come in any order and may include
unknown ones, or as an array of the fields in their order, in which fields at the end may be
missing. A known field that is written twice is refused. A value of an enumeration is written as
its name, or as an object with this name as the only member and `null` under it.
-/
import RpmProvision.Json.Basic

namespace RpmProvision.Json

/-- The text of a string that some text can hold. -/
def text? : Json → Option String
  | .string s => s
  | _ => none

/-- The truth value. -/
def bool? : Json → Option Bool
  | .bool b => some b
  | _ => none

/-- The number that a numeral of digits alone writes. -/
def natural? : Json → Option Nat
  | .number numeral =>
    if numeral.all Char.isDigit then some (Nat.ofDigitChars 10 numeral 0) else none
  | _ => none

/-- A number of 64 bits. -/
def word64? (v : Json) : Option UInt64 :=
  v.natural?.bind fun n => if n < UInt64.size then some (UInt64.ofNat n) else none

/-- A number of 32 bits. -/
def word32? (v : Json) : Option UInt32 :=
  v.natural?.bind fun n => if n < UInt32.size then some (UInt32.ofNat n) else none

/-- The elements of an array, each read alike. -/
def list? {α : Type} (read : Json → Option α) : Json → Option (List α)
  | .array elements => elements.mapM read
  | _ => none

/-- The members of an object, if every name is a text. -/
def members? : Json → Option (List (String × Json))
  | .object members => members.mapM fun m => m.1.map (·, m.2)
  | _ => none

/-- The value under a name; the outer `none` says that the name stands there twice. -/
def single? (members : List (String × Json)) (name : String) : Option (Option Json) :=
  match members.filter fun m => m.1 = name with
  | [] => some none
  | [m] => some (some m.2)
  | _ => none

/-- The fields of a record in their order, absent ones as `none`. -/
def fields? (names : List String) : Json → Option (List (Option Json))
  | .object members => ((Json.object members).members?).bind fun ms => names.mapM (single? ms)
  | .array elements =>
    if elements.length ≤ names.length then
      some (elements.map some ++ List.replicate (names.length - elements.length) none)
    else none
  | _ => none

/-- A field that must be present. -/
def required? {α : Type} (read : Json → Option α) (field : Option Json) : Option α :=
  field.bind read

/-- A field with a default. -/
def defaulted? {α : Type} (default : α) (read : Json → Option α) : Option Json → Option α
  | none => some default
  | some v => read v

/-- A field that may be absent or `null`. -/
def optional? {α : Type} (read : Json → Option α) : Option Json → Option (Option α)
  | none => some none
  | some .null => some none
  | some v => (read v).map some

/-- The name of an enumeration's value. -/
def variant? : Json → Option String
  | .string s => s
  | .object [(name, .null)] => name
  | _ => none

end RpmProvision.Json
