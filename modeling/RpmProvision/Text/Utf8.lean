/-
Texts as octets and back.

Reading is strict (`decode?`) or lossy (`decodeLossy`). The lossy reader replaces every longest
run of octets that begins a character but does not finish one, and every octet that begins none,
by U+FFFD.

* **`decode?_encode`** — the octets of a text are read back as that text.
-/

namespace RpmProvision

/-- What a file holds and what a program prints. -/
abbrev Bytes := List UInt8

namespace Text.Utf8

/-- The octets of a text. -/
def encode (s : String) : Bytes := s.toUTF8.data.toList

/-- The text of a run of octets, if they are well formed. -/
def decode? (bytes : Bytes) : Option String := String.fromUTF8? ⟨bytes.toArray⟩

/-- The character that stands for what cannot be read. -/
def replacement : Char := '\ufffd'

/-- Whether the octet continues a character. -/
def isTail (b : UInt8) : Bool := 0x80 ≤ b && b ≤ 0xbf

/-- Whether `b` may follow the first octet `a` of a character of three or four octets. -/
def mayFollow (a b : UInt8) : Bool :=
  if a = 0xe0 then 0xa0 ≤ b && b ≤ 0xbf
  else if a = 0xed then 0x80 ≤ b && b ≤ 0x9f
  else if a = 0xf0 then 0x90 ≤ b && b ≤ 0xbf
  else if a = 0xf4 then 0x80 ≤ b && b ≤ 0x8f
  else isTail b

/-- The six low bits of a continuing octet below what came before. -/
def shiftIn (n : Nat) (b : UInt8) : Nat := n * 64 + b.toNat % 64

/-- The characters of a run of octets, with replacements for what cannot be read. -/
def decodeLossyChars (bytes : Bytes) : List Char :=
  match bytes with
  | [] => []
  | a :: rest =>
    if a < 0x80 then Char.ofNat a.toNat :: decodeLossyChars rest
    else if 0xc2 ≤ a && a ≤ 0xdf then
      match rest with
      | [] => [replacement]
      | b :: rest' =>
        if isTail b then Char.ofNat (shiftIn (a.toNat % 32) b) :: decodeLossyChars rest'
        else replacement :: decodeLossyChars (b :: rest')
    else if 0xe0 ≤ a && a ≤ 0xef then
      match rest with
      | [] => [replacement]
      | b :: rest' =>
        if mayFollow a b then
          match rest' with
          | [] => [replacement]
          | c :: rest'' =>
            if isTail c then
              Char.ofNat (shiftIn (shiftIn (a.toNat % 16) b) c) :: decodeLossyChars rest''
            else replacement :: decodeLossyChars (c :: rest'')
        else replacement :: decodeLossyChars (b :: rest')
    else if 0xf0 ≤ a && a ≤ 0xf4 then
      match rest with
      | [] => [replacement]
      | b :: rest' =>
        if mayFollow a b then
          match rest' with
          | [] => [replacement]
          | c :: rest'' =>
            if isTail c then
              match rest'' with
              | [] => [replacement]
              | d :: rest''' =>
                if isTail d then
                  Char.ofNat (shiftIn (shiftIn (shiftIn (a.toNat % 8) b) c) d)
                    :: decodeLossyChars rest'''
                else replacement :: decodeLossyChars (d :: rest''')
            else replacement :: decodeLossyChars (c :: rest'')
        else replacement :: decodeLossyChars (b :: rest')
    else replacement :: decodeLossyChars rest
  termination_by bytes.length

/-- The text of a run of octets, with replacements for what cannot be read. -/
def decodeLossy (bytes : Bytes) : String := String.ofList (decodeLossyChars bytes)

/-- The octets of a text are read back as that text. -/
@[simp] theorem decode?_encode (s : String) : decode? (encode s) = some s := by
  have h : (⟨(encode s).toArray⟩ : ByteArray) = s.toUTF8 := by simp [encode]
  rw [decode?, h, String.fromUTF8?, String.toUTF8_eq_toByteArray, dif_pos s.isValidUTF8]
  rfl

example : decodeLossy [0x61, 0xff, 0xe2, 0x82, 0x62, 0xf0, 0x9f, 0x98, 0x80]
    = "a\ufffd\ufffdb😀" := by cbv

end Text.Utf8

end RpmProvision
