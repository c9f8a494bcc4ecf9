/-
Records that describe the next member of a TAR archive.

A record is a line `size key=value`, where the size is that of the whole line with its end. An empty
line ends the records.

* **`find?`** — the value of the first record with a key; lines that are no records do not count;
* **`size?`** — the size that the records give to a content; here nothing counts that comes after a
  line that is no record.
-/
import RpmProvision.Archive.Tar.Header

namespace RpmProvision.Archive.Tar.Records

/-- Cut octets at the first octet of some value. -/
def cutAt? (mark : UInt8) : Bytes → Option (Bytes × Bytes)
  | [] => none
  | b :: rest =>
    if b = mark then some ([], rest) else (cutAt? mark rest).map fun p => (b :: p.1, p.2)

/-- The pieces between the octets of some value. -/
def split (mark : UInt8) : Bytes → List Bytes
  | [] => [[]]
  | b :: rest =>
    if b = mark then [] :: split mark rest
    else
      match split mark rest with
      | [] => [[b]]
      | piece :: pieces => (b :: piece) :: pieces

/-- A decimal number. -/
def decimal? (bytes : Bytes) : Option Nat := Text.numeral? 10 (Text.Utf8.decodeLossyChars bytes)

/-- The key and the value of a record. -/
def record? (line : Bytes) : Option (Bytes × Bytes) := do
  let (size, rest) ← cutAt? 0x20 line
  if (← decimal? size) = line.length + 1 then cutAt? 0x3d rest else none

/-- The lines, each as a record if it is one. -/
def lines (bytes : Bytes) : List (Option (Bytes × Bytes)) :=
  ((split 0x0a bytes).takeWhile (· ≠ [])).map record?

/-- The value of the first record with a key. -/
def find? (key : String) (bytes : Bytes) : Option Bytes :=
  ((lines bytes).filterMap id).lookup (Text.Utf8.encode key)

/-- The size that the records give. -/
def size? (bytes : Bytes) : Option Nat :=
  ((((lines bytes).takeWhile Option.isSome).filterMap id).lookup (Text.Utf8.encode "size")).bind
    decimal?

end RpmProvision.Archive.Tar.Records
