/-
JSON documents and their tokens.

A document is a value of `Json`; its written forms are sequences of `Token`s. Numerals are kept as
written, and a text whose escapes name half of a surrogate pair is kept as `none`: it is well
formed JSON that no `String` can hold.
-/

namespace RpmProvision

/-- A JSON document. Members of an object stand in written order and may repeat a name. -/
inductive Json where
  | null
  | bool (value : Bool)
  | number (numeral : List Char)
  | string (text : Option String)
  | array (elements : List Json)
  | object (members : List (Option String × Json))
  deriving Inhabited

namespace Json

/-- A token of a written document. -/
inductive Token where
  | openArray
  | closeArray
  | openObject
  | closeObject
  | comma
  | colon
  | null
  | bool (value : Bool)
  | number (numeral : List Char)
  | string (text : Option String)
  deriving DecidableEq

/-- The number document of a natural number. -/
def natural (n : Nat) : Json := .number (Nat.toDigits 10 n)

/-- The string document of a text. -/
def ofText (s : String) : Json := .string (some s)

/-- An object whose member names are texts. -/
def record (members : List (String × Json)) : Json :=
  .object (members.map fun m => (some m.1, m.2))

mutual

/-- The tokens of a document. -/
def tokens : Json → List Token
  | .null => [.null]
  | .bool b => [.bool b]
  | .number n => [.number n]
  | .string s => [.string s]
  | .array elements => .openArray :: elementTokens true elements
  | .object members => .openObject :: memberTokens true members

/-- The tokens of the elements still to come and of the closing bracket; `first` says that no
element has been written yet. -/
def elementTokens (first : Bool) : List Json → List Token
  | [] => [.closeArray]
  | v :: rest => (if first then [] else [.comma]) ++ tokens v ++ elementTokens false rest

/-- The tokens of the members still to come and of the closing brace. -/
def memberTokens (first : Bool) : List (Option String × Json) → List Token
  | [] => [.closeObject]
  | m :: rest => (if first then [] else [.comma]) ++ memberToken m ++ memberTokens false rest

/-- The tokens of one member. -/
def memberToken : Option String × Json → List Token
  | (name, v) => .string name :: .colon :: tokens v

end

end Json

end RpmProvision
