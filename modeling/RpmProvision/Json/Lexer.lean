/-
Reading the tokens of a JSON text.

A string may not hold control characters, an escape is one of the eight short ones or `\u` with four
hexadecimal digits, and a numeral has no leading zero and digits on both sides of a point. White
space is the four characters that JSON names.

* **`length_scanToken`** — every token takes at least one character, so reading ends.
-/
import RpmProvision.Json.Basic

namespace RpmProvision.Json

/-! ### Strings -/

/-- What a written string consists of. -/
inductive StringPart where
  /-- A character, written as it is or by a short escape. -/
  | char (c : Char)
  /-- A UTF-16 unit, written by its number. -/
  | codeUnit (n : Nat)
  deriving DecidableEq

/-- The value of a hexadecimal digit. -/
def hexDigit? (c : Char) : Option Nat :=
  if '0' ≤ c && c ≤ '9' then some (c.toNat - '0'.toNat)
  else if 'a' ≤ c && c ≤ 'f' then some (c.toNat - 'a'.toNat + 10)
  else if 'A' ≤ c && c ≤ 'F' then some (c.toNat - 'A'.toNat + 10)
  else none

/-- The number written by four hexadecimal digits. -/
def codeUnit? (a b c d : Char) : Option Nat :=
  match hexDigit? a, hexDigit? b, hexDigit? c, hexDigit? d with
  | some a, some b, some c, some d => some (((a * 16 + b) * 16 + c) * 16 + d)
  | _, _, _, _ => none

/-- The character that a backslash and `c` stand for. -/
def shortEscape? (c : Char) : Option Char :=
  if c = '"' then some '"'
  else if c = '\\' then some '\\'
  else if c = '/' then some '/'
  else if c = 'b' then some '\x08'
  else if c = 'f' then some '\x0c'
  else if c = 'n' then some '\n'
  else if c = 'r' then some '\r'
  else if c = 't' then some '\t'
  else none

/-- The parts of a string up to its closing quotation mark, and what follows the mark. -/
def scanString : List Char → Option (List StringPart × List Char)
  | [] => none
  | '"' :: rest => some ([], rest)
  | '\\' :: 'u' :: a :: b :: c :: d :: rest =>
    match codeUnit? a b c d, scanString rest with
    | some n, some (parts, after) => some (.codeUnit n :: parts, after)
    | _, _ => none
  | '\\' :: e :: rest =>
    match shortEscape? e, scanString rest with
    | some c, some (parts, after) => some (.char c :: parts, after)
    | _, _ => none
  | c :: rest =>
    if c.toNat < 0x20 ∨ c = '\\' then none
    else
      match scanString rest with
      | some (parts, after) => some (.char c :: parts, after)
      | none => none

/-- The characters of a string; `none` if a unit names half of a surrogate pair and the other half
does not follow. -/
def joinParts : List StringPart → Option (List Char)
  | [] => some []
  | .char c :: rest => (joinParts rest).map (c :: ·)
  | .codeUnit n :: rest =>
    if n < 0xd800 ∨ 0xdfff < n then (joinParts rest).map (Char.ofNat n :: ·)
    else if n < 0xdc00 then
      match rest with
      | .codeUnit m :: rest' =>
        if 0xdc00 ≤ m ∧ m ≤ 0xdfff then
          (joinParts rest').map (Char.ofNat (0x10000 + (n - 0xd800) * 0x400 + (m - 0xdc00)) :: ·)
        else none
      | _ => none
    else none

/-! ### Numerals -/

/-- The digits at the front, and the rest. -/
def scanDigits (cs : List Char) : List Char × List Char :=
  (cs.takeWhile Char.isDigit, cs.dropWhile Char.isDigit)

/-- A zero, or digits without a leading zero. -/
def scanInteger : List Char → Option (List Char × List Char)
  | [] => none
  | c :: rest =>
    if c = '0' then some (['0'], rest)
    else if c.isDigit then some (c :: (scanDigits rest).1, (scanDigits rest).2)
    else none

/-- A point and the digits after it, if a point comes next. -/
def scanFraction : List Char → Option (List Char × List Char)
  | '.' :: rest =>
    match scanDigits rest with
    | ([], _) => none
    | (digits, after) => some ('.' :: digits, after)
  | cs => some ([], cs)

/-- The sign of an exponent, if there is one. -/
def scanSign : List Char → List Char × List Char
  | '+' :: rest => (['+'], rest)
  | '-' :: rest => (['-'], rest)
  | cs => ([], cs)

/-- The exponent, if its mark comes next. -/
def scanExponent : List Char → Option (List Char × List Char)
  | [] => some ([], [])
  | c :: rest =>
    if c = 'e' ∨ c = 'E' then
      match scanDigits (scanSign rest).2 with
      | ([], _) => none
      | (digits, after) => some (c :: (scanSign rest).1 ++ digits, after)
    else some ([], c :: rest)

/-- A numeral without its minus sign. -/
def scanUnsigned (cs : List Char) : Option (List Char × List Char) :=
  match scanInteger cs with
  | none => none
  | some (integer, cs) =>
    match scanFraction cs with
    | none => none
    | some (fraction, cs) =>
      match scanExponent cs with
      | none => none
      | some (exponent, cs) => some (integer ++ fraction ++ exponent, cs)

/-- A numeral. -/
def scanNumber : List Char → Option (List Char × List Char)
  | '-' :: rest => (scanUnsigned rest).map fun p => ('-' :: p.1, p.2)
  | cs => scanUnsigned cs

/-! ### Tokens -/

/-- The blanks of JSON. -/
def isWhite (c : Char) : Bool := c = ' ' || c = '\n' || c = '\t' || c = '\r'

/-- The rest after a word that must come next. -/
def afterWord? (word : List Char) (cs : List Char) : Option (List Char) :=
  if word.isPrefixOf cs then some (cs.drop word.length) else none

/-- The token at the front of a text, and the rest. -/
def scanToken : List Char → Option (Token × List Char)
  | [] => none
  | '[' :: rest => some (.openArray, rest)
  | ']' :: rest => some (.closeArray, rest)
  | '\x7b' :: rest => some (.openObject, rest)
  | '\x7d' :: rest => some (.closeObject, rest)
  | ',' :: rest => some (.comma, rest)
  | ':' :: rest => some (.colon, rest)
  | '"' :: rest => (scanString rest).map fun p => (.string ((joinParts p.1).map String.ofList), p.2)
  | 'n' :: rest => (afterWord? ['u', 'l', 'l'] rest).map (Token.null, ·)
  | 't' :: rest => (afterWord? ['r', 'u', 'e'] rest).map (Token.bool true, ·)
  | 'f' :: rest => (afterWord? ['a', 'l', 's', 'e'] rest).map (Token.bool false, ·)
  | cs => (scanNumber cs).map fun p => (.number p.1, p.2)

/-! Every token takes at least one character. -/

theorem length_scanString {cs : List Char} {parts : List StringPart} {after : List Char}
    (h : scanString cs = some (parts, after)) : after.length < cs.length := by
  fun_induction scanString cs generalizing parts after <;>
    simp only [List.length_cons, List.length_nil] <;> grind

theorem length_scanDigits (cs : List Char) : (scanDigits cs).2.length ≤ cs.length :=
  (List.dropWhile_sublist _).length_le

theorem length_scanInteger {cs digits after : List Char}
    (h : scanInteger cs = some (digits, after)) : after.length < cs.length := by
  have := length_scanDigits
  cases cs with
  | nil => simp [scanInteger] at h
  | cons c rest => have := length_scanDigits rest; grind [scanInteger]

theorem length_scanFraction {cs digits after : List Char}
    (h : scanFraction cs = some (digits, after)) : after.length ≤ cs.length := by
  fun_cases scanFraction cs with
  | case1 rest x e => simp [scanFraction, e] at h
  | case2 rest digits' after' _ e =>
    have := length_scanDigits rest
    grind [scanFraction]
  | case3 => grind [scanFraction]

theorem length_scanSign (cs : List Char) : (scanSign cs).2.length ≤ cs.length := by
  fun_cases scanSign cs <;> grind [scanSign]

theorem length_scanExponent {cs digits after : List Char}
    (h : scanExponent cs = some (digits, after)) : after.length ≤ cs.length := by
  cases cs with
  | nil => simp_all [scanExponent]
  | cons c rest =>
    have := length_scanSign rest
    have := length_scanDigits (scanSign rest).2
    grind [scanExponent]

theorem length_scanUnsigned {cs numeral after : List Char}
    (h : scanUnsigned cs = some (numeral, after)) : after.length < cs.length := by
  rw [scanUnsigned] at h
  split at h
  · simp at h
  · next h₁ =>
    split at h
    · simp at h
    · next h₂ =>
      split at h
      · simp at h
      · next h₃ =>
        have := length_scanInteger h₁
        have := length_scanFraction h₂
        have := length_scanExponent h₃
        grind

theorem length_scanNumber {cs numeral after : List Char}
    (h : scanNumber cs = some (numeral, after)) : after.length < cs.length := by
  have := @length_scanUnsigned
  fun_cases scanNumber cs <;> grind [scanNumber, Option.map_eq_some_iff]

theorem length_afterWord? {word cs after : List Char} (h : afterWord? word cs = some after) :
    after.length ≤ cs.length := by
  grind [afterWord?]

theorem length_scanToken {cs after : List Char} {t : Token} (h : scanToken cs = some (t, after)) :
    after.length < cs.length := by
  have := @length_scanString
  have := @length_afterWord?
  have := @length_scanNumber
  fun_cases scanToken cs <;> grind [scanToken, Option.map_eq_some_iff]

/-- The tokens of a text. -/
def tokens? (cs : List Char) : Option (List Token) :=
  match _hd : cs.dropWhile isWhite with
  | [] => some []
  | c :: rest =>
    match _h : scanToken (c :: rest) with
    | none => none
    | some (t, after) => (tokens? after).map (t :: ·)
  termination_by cs.length
  decreasing_by
    have := length_scanToken _h
    have := (List.dropWhile_sublist isWhite (l := cs)).length_le
    grind

end RpmProvision.Json
