/-
Writing archives in the TAR format.

* **`pack`** — a compressed archive of directories and files.
-/
import RpmProvision.Archive.Gzip
import RpmProvision.Archive.Tar.Header

namespace RpmProvision.Archive.Tar

/-- A number as a field of octal digits and a zero. -/
def octalField (size value : Nat) : Bytes :=
  let digits := (Nat.toDigits 8 value).map fun c => UInt8.ofNat c.toNat
  List.replicate (size - 1 - digits.length) 0x30 ++ digits ++ [0]

/-- Fill up with zeros. -/
def padTo (size : Nat) (bytes : Bytes) : Bytes := bytes ++ List.replicate (size - bytes.length) 0

/-- A header with a name, the mode, a size and a kind. -/
def header (name : Bytes) (mode size : Nat) (kind : Kind) : Bytes :=
  let before := padTo 100 (name.take 100) ++ octalField 8 mode ++ octalField 8 0 ++ octalField 8 0
    ++ octalField 12 size ++ octalField 12 0
  let after := kind.mark :: padTo 100 [] ++ Text.Utf8.encode "ustar  " ++ [0]
  let whole := padTo blockSize (before ++ List.replicate 8 0x20 ++ after)
  before ++ octalField 7 (Header.mk whole).sum ++ [0x20] ++ whole.drop 156

/-- A content filled up with zeros. -/
def block (content : Bytes) : Bytes := padTo (filled content.length) content

/-- The member that a long name needs before the one it belongs to. -/
def longName (name : Bytes) : Bytes :=
  if name.length ≤ 100 then []
  else header (Text.Utf8.encode "././@LongLink") 0 (name.length + 1) .longName ++ block (name ++ [0])

/-- A member as part of an archive: a directory, or a file with a content. -/
def packMember (name : String) (content : Option Bytes) : Bytes :=
  let name := Text.Utf8.encode name
  longName name ++
    match content with
    | none => header name 0o755 0 .directory
    | some content => header name 0o644 content.length .file ++ block content

/-- A compressed archive of directories and files. -/
def pack (members : List (String × Option Bytes)) : Bytes :=
  Gzip.pack ((members.flatMap fun m => packMember m.1 m.2) ++ List.replicate (2 * blockSize) 0)

end RpmProvision.Archive.Tar
