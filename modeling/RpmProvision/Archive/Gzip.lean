/-
Files in the GZIP format: compressed data between a header and a check value.

* **`unpack`** — the content of such a file, and whether the file is sound up to its end;
* **`pack`** — a file with a given content, which is stored as it is.
-/
import RpmProvision.Archive.Inflate

namespace RpmProvision.Archive.Gzip

/-- One step of the check value for each bit of an octet. -/
def checkBits (n : Nat) (c : UInt32) : UInt32 :=
  match n with
  | 0 => c
  | n + 1 => checkBits n (if c &&& 1 = 1 then (c >>> 1) ^^^ 0xedb88320 else c >>> 1)

/-- The check value of some octets: the CRC with the polynomial of IEEE 802.3. -/
def checkValue (bytes : Bytes) : UInt32 :=
  bytes.foldl (fun c b => checkBits 8 (c ^^^ b.toUInt32)) 0xffffffff ^^^ 0xffffffff

/-- A number in `n` octets, the lowest first. -/
def little : Nat → Nat → Bytes
  | 0, _ => []
  | n + 1, value => UInt8.ofNat value :: little n (value / 256)

/-- The longest text in a header. -/
def maxText : Nat := 65535

/-- Drop a text of at most `room` octets that ends in a zero octet. -/
def dropText (room : Nat) : Bytes → Option Bytes
  | [] => none
  | b :: rest =>
    if b = 0 then some rest
    else
      match room with
      | 0 => none
      | room + 1 => dropText room rest

/-- Drop a part of a header that is there if a flag is set. -/
def dropIf (flag : Bool) (part : Bytes → Option Bytes) (bytes : Bytes) : Option Bytes :=
  if flag then part bytes else some bytes

/-- Drop `n` octets, which must be there. -/
def dropExactly (n : Nat) (bytes : Bytes) : Option Bytes :=
  if n ≤ bytes.length then some (bytes.drop n) else none

/-- Drop a part that begins with its size. -/
def dropSized : Bytes → Option Bytes
  | low :: high :: rest => dropExactly (low.toNat + 256 * high.toNat) rest
  | _ => none

/-- Drop the check value of a header: half of the check value of what stands before it in a file. -/
def dropCheck (file rest : Bytes) : Option Bytes :=
  if rest.take 2 == little 2 (checkValue (file.take (file.length - rest.length))).toNat then
    dropExactly 2 rest
  else none

/-- What follows the header of a file. -/
def dropHeader? (file : Bytes) : Option Bytes :=
  match file with
  | 0x1f :: 0x8b :: 8 :: flags :: rest => do
    let set := fun k => flags.toNat.testBit k
    if set 5 || set 6 || set 7 then none
    let rest ← dropExactly 6 rest
    let rest ← dropIf (set 2) dropSized rest
    let rest ← dropIf (set 3) (dropText maxText) rest
    let rest ← dropIf (set 4) (dropText maxText) rest
    dropIf (set 1) (dropCheck file) rest
  | _ => none

/-- The content of a file, and whether nothing is wrong with the file at or before its end. -/
structure Unpacked where
  content : Bytes
  isSound : Bool

/-- The number of octets in which a file is read, and in which its content is handed on. -/
def windowSize : Nat := 32768

/-- How many whole windows end before the last of `n` octets, in octets. -/
def windowsBefore (n : Nat) : Nat := (n - 1) / windowSize * windowSize

/-- How many octets of the content are handed on before a damage is met: the content is handed on
whenever a window of it is full and more is wanted, and whenever all that was read of the file is
used up. `lead` is the size of the header. -/
def handedOn (lead : Nat) (data : Bytes) (r : Inflated) : Nat :=
  let used := lead + (data.length - r.rest.length)
  max (windowsBefore r.output.length)
    (inflate (data.take (windowsBefore used - lead))).output.length

/-- Take the content out of a file, as far as it is handed on before something wrong is met. -/
def unpack (bytes : Bytes) : Unpacked :=
  match dropHeader? bytes with
  | none => ⟨[], false⟩
  | some data =>
    let inflated := inflate data
    match inflated.fault with
    | some .damaged =>
      ⟨inflated.output.take (handedOn (bytes.length - data.length) data inflated), false⟩
    | some .truncated => ⟨inflated.output, false⟩
    | none =>
      ⟨inflated.output, inflated.rest.take 8 ==
        little 4 (checkValue inflated.output).toNat ++ little 4 inflated.output.length⟩

/-- The most octets in one stored block. -/
def maxStored : Nat := 65535

/-- Some octets as stored blocks, at most `n + 1` of them. -/
def storedBlocks : Nat → Bytes → Bytes
  | 0, bytes =>
    1 :: little 2 bytes.length ++ little 2 (maxStored - bytes.length) ++ bytes
  | n + 1, bytes =>
    if bytes.length ≤ maxStored then storedBlocks 0 bytes
    else 0 :: little 2 maxStored ++ little 2 0 ++ bytes.take maxStored
      ++ storedBlocks n (bytes.drop maxStored)

/-- A file with a content. -/
def pack (content : Bytes) : Bytes :=
  [0x1f, 0x8b, 8, 0, 0, 0, 0, 0, 0, 0xff] ++ storedBlocks (content.length / maxStored) content
    ++ little 4 (checkValue content).toNat ++ little 4 content.length

end RpmProvision.Archive.Gzip
