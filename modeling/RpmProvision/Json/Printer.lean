/-
Writing JSON documents.

The compact form has no white space. The indented form puts every element and member on a line of
its own, two spaces deeper than its brackets, and writes empty brackets together.
-/
import RpmProvision.Json.Basic

namespace RpmProvision.Json

/-- How a character is written inside a string. -/
def escapeChar (c : Char) : List Char :=
  if c = '"' then ['\\', '"']
  else if c = '\\' then ['\\', '\\']
  else if c = '\x08' then ['\\', 'b']
  else if c = '\x0c' then ['\\', 'f']
  else if c = '\n' then ['\\', 'n']
  else if c = '\r' then ['\\', 'r']
  else if c = '\t' then ['\\', 't']
  else if c.toNat < 0x20 then
    ['\\', 'u', '0', '0', Nat.digitChar (c.toNat / 16), Nat.digitChar (c.toNat % 16)]
  else [c]

/-- A string between quotation marks; one that no text can hold is written as half of a pair. -/
def writeString : Option String → List Char
  | some s => '"' :: s.toList.flatMap escapeChar ++ ['"']
  | none => ['"', '\\', 'u', 'd', '8', '0', '0', '"']

/-- The characters of a token. -/
def Token.write : Token → List Char
  | .openArray => ['[']
  | .closeArray => [']']
  | .openObject => ['\x7b']
  | .closeObject => ['\x7d']
  | .comma => [',']
  | .colon => [':']
  | .null => ['n', 'u', 'l', 'l']
  | .bool true => ['t', 'r', 'u', 'e']
  | .bool false => ['f', 'a', 'l', 's', 'e']
  | .number numeral => numeral
  | .string s => writeString s

/-- A line end and the white space before the next line's first character. -/
def newLine (depth : Nat) : List Char := '\n' :: List.replicate (2 * depth) ' '

/-- The tokens laid out on lines; `fresh` says that a bracket has just been opened. -/
def layOut (depth : Nat) (fresh : Bool) : List Token → List Char
  | [] => []
  | t :: rest =>
    match t with
    | .comma => ',' :: newLine depth ++ layOut depth false rest
    | .colon => ':' :: ' ' :: layOut depth false rest
    | .closeArray | .closeObject =>
      (if fresh then [] else newLine (depth - 1)) ++ t.write ++ layOut (depth - 1) false rest
    | .openArray | .openObject =>
      (if fresh then newLine depth else []) ++ t.write ++ layOut (depth + 1) true rest
    | _ => (if fresh then newLine depth else []) ++ t.write ++ layOut depth false rest

/-- The document on lines. -/
def indented (v : Json) : String := String.ofList (layOut 0 false (tokens v))

/-- The document without white space. -/
def compact (v : Json) : String := String.ofList ((tokens v).flatMap Token.write)

end RpmProvision.Json
