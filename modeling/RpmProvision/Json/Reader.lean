/-
Reading a JSON document from its tokens.

The reader is a stack machine: one frame for each array or object that is open, so the depth of a
document does not matter.

`ReaderState.step` is the whole grammar: which token may come next, and what it completes.
-/
import RpmProvision.Json.Lexer

namespace RpmProvision.Json

/-- An array or object that is open, with what it holds so far in reverse order. -/
inductive Frame where
  | element (before : List Json)
  | member (before : List (Option String × Json)) (name : Option String)

/-- What the reader has seen, by what must follow. -/
inductive ReaderState where
  /-- A value must follow. -/
  | value (frames : List Frame)
  /-- An array has just been opened. -/
  | elementOrEnd (frames : List Frame)
  /-- An object has just been opened. -/
  | memberOrEnd (frames : List Frame)
  /-- The name of a further member must follow. -/
  | name (before : List (Option String × Json)) (frames : List Frame)
  /-- The colon after a member's name must follow. -/
  | colon (before : List (Option String × Json)) (name : Option String) (frames : List Frame)
  /-- A value has just ended. -/
  | ended (v : Json) (frames : List Frame)

namespace ReaderState

/-- The first token of a value. -/
def begin (t : Token) (frames : List Frame) : Option ReaderState :=
  match t with
  | .openArray => some (.elementOrEnd frames)
  | .openObject => some (.memberOrEnd frames)
  | .null => some (.ended .null frames)
  | .bool b => some (.ended (.bool b) frames)
  | .number n => some (.ended (.number n) frames)
  | .string s => some (.ended (.string s) frames)
  | _ => none

/-- The token after a value. -/
def proceed (t : Token) (v : Json) : List Frame → Option ReaderState
  | .element before :: outer =>
    match t with
    | .comma => some (.value (.element (v :: before) :: outer))
    | .closeArray => some (.ended (.array (v :: before).reverse) outer)
    | _ => none
  | .member before key :: outer =>
    match t with
    | .comma => some (.name ((key, v) :: before) outer)
    | .closeObject => some (.ended (.object ((key, v) :: before).reverse) outer)
    | _ => none
  | [] => none

/-- One token further; `none` where the token cannot stand. -/
def step : ReaderState → Token → Option ReaderState
  | .value frames, t => begin t frames
  | .elementOrEnd frames, .closeArray => some (.ended (.array []) frames)
  | .elementOrEnd frames, t => begin t (.element [] :: frames)
  | .memberOrEnd frames, .closeObject => some (.ended (.object []) frames)
  | .memberOrEnd frames, .string key => some (.colon [] key frames)
  | .name before frames, .string key => some (.colon before key frames)
  | .colon before key frames, .colon => some (.value (.member before key :: frames))
  | .ended v frames, t => proceed t v frames
  | _, _ => none

/-- The document, if it is complete. -/
def finished? : ReaderState → Option Json
  | .ended v [] => some v
  | _ => none

/-- Several tokens further. -/
def run (s : ReaderState) (ts : List Token) : Option ReaderState := ts.foldlM step s

end ReaderState

/-- The document that a sequence of tokens writes. -/
def ofTokens? (ts : List Token) : Option Json :=
  (ReaderState.run (.value []) ts).bind ReaderState.finished?

/-- The document that a text writes. -/
def read? (text : String) : Option Json := (tokens? text.toList).bind ofTokens?

end RpmProvision.Json
