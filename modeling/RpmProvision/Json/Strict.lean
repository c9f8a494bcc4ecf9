/-
Documents that every reader of JSON can hold.

Such a document has no text that names half of a surrogate pair, no number that double precision
rounds to infinity, and at most 127 arrays and objects inside each other.

* **`readStrict`** — such a document, or the error of a run for a text that is none.
-/
import RpmProvision.Error
import RpmProvision.Json.Reader

namespace RpmProvision.Json

/-- The text of the failure to read a JSON document. -/
def malformed : String := "malformed JSON document"

/-- How many arrays and objects may stand inside each other. -/
def maxDepth : Nat := 127

/-! ### Numbers in double precision

A numeral is read into a significand, which is a machine word, and a power of ten. Digits that the
significand has no room for do not count, apart from the places that those before the point take. -/

/-- A numeral in progress: a significand and a power of ten. -/
structure Scaled where
  significand : Nat
  exponent : Int

namespace Scaled

/-- The least number that a significand has no room for. -/
def bound : Nat := 1 <<< 64

/-- Take in digits; `exponent` changes by `step` for a digit that is taken in. The result has the
digits from the first one on that there is no room for. -/
def takeIn (step : Int) (x : Scaled) : List Char → Scaled × List Char
  | [] => (x, [])
  | c :: cs =>
    let grown := 10 * x.significand + (c.toNat - '0'.toNat)
    if bound ≤ grown then (x, c :: cs)
    else takeIn step ⟨grown, x.exponent + step⟩ cs

/-- The digits of a numeral before and after the point. -/
def ofDigits (whole places : List Char) : Scaled :=
  let (x, beyond) := takeIn 0 ⟨0, 0⟩ whole
  (takeIn (-1) { x with exponent := x.exponent + beyond.length } places).1

end Scaled

/-- The number that digits with a sign write. -/
def signed (digits : List Char) : Int :=
  match digits with
  | '-' :: ds => -(Nat.ofDigitChars 10 ds 0 : Int)
  | '+' :: ds => (Nat.ofDigitChars 10 ds 0 : Int)
  | ds => (Nat.ofDigitChars 10 ds 0 : Int)

/-- A number rounded to 53 binary digits, a tie to the even neighbour. -/
def rounded (n : Nat) : Nat :=
  let unit := 1 <<< (n.log2 - 52)
  let (quotient, rest) := (n / unit, n % unit)
  let up := unit < 2 * rest || (unit == 2 * rest && quotient % 2 == 1)
  (if up then quotient + 1 else quotient) * unit

/-- The least number that double precision rounds to infinity. -/
def overflowBound : Nat := (1 <<< 1024) - (1 <<< 970)

/-- The largest power of ten in double precision. -/
def maxPower : Nat := 308

/-- Whether a significand times a power of ten is too large for double precision. -/
def Scaled.overflows (x : Scaled) : Bool :=
  match x.exponent with
  | .ofNat e =>
    x.significand != 0
      && (maxPower < e || overflowBound ≤ rounded x.significand * rounded (Nat.pow 10 e))
  | .negSucc _ => false

/-- Whether a numeral writes a number that is too large for double precision. -/
def overflows (numeral : List Char) : Bool :=
  let digits := numeral.dropWhile (· = '-')
  let whole := digits.takeWhile Char.isDigit
  let rest := digits.dropWhile Char.isDigit
  let (places, rest) := match rest with
    | '.' :: more => (more.takeWhile Char.isDigit, more.dropWhile Char.isDigit)
    | other => ([], other)
  let x := Scaled.ofDigits whole places
  Scaled.overflows { x with exponent := x.exponent + signed (rest.drop 1) }

mutual

/-- Whether every reader can hold the document, if `room` more levels are allowed. -/
def isStrict (room : Nat) : Json → Bool
  | .null => true
  | .bool _ => true
  | .number numeral => !overflows numeral
  | .string s => s.isSome
  | .array elements => 0 < room && areStrict (room - 1) elements
  | .object members => 0 < room && membersAreStrict (room - 1) members

/-- Whether every reader can hold all elements. -/
def areStrict (room : Nat) : List Json → Bool
  | [] => true
  | v :: rest => isStrict room v && areStrict room rest

/-- Whether every reader can hold all members. -/
def membersAreStrict (room : Nat) : List (Option String × Json) → Bool
  | [] => true
  | m :: rest => memberIsStrict room m && membersAreStrict room rest

/-- Whether every reader can hold a member. -/
def memberIsStrict (room : Nat) : Option String × Json → Bool
  | (name, v) => name.isSome && isStrict room v

end

/-- The document of a text. -/
def readStrict (text : String) : Except Error Json :=
  match read? text with
  | some v => if isStrict maxDepth v then .ok v else .error ⟨.parse, malformed⟩
  | none => .error ⟨.parse, malformed⟩

end RpmProvision.Json
