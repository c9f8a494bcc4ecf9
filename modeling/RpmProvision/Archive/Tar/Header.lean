/-
Headers of TAR archives.

A header is a block of 512 octets with fields at fixed places. Numbers are written in octal digits,
or, where the highest bit of the field is set, in octets. What stands in the field for the format
tells whether the header has a place for the front part of a long name, and whether it can be one of
the headers that describe the next member.
-/
import RpmProvision.Text.Blank
import RpmProvision.Text.Numeral
import RpmProvision.Text.Utf8

namespace RpmProvision.Archive.Tar

/-- The size of a header, and of what contents are filled up to. -/
def blockSize : Nat := 512

/-- The size of a content filled up to a multiple of the block size. -/
def filled (size : Nat) : Nat := (size + (blockSize - 1)) / blockSize * blockSize

/-- Some octets at a place. -/
def field (bytes : Bytes) (start size : Nat) : Bytes := (bytes.drop start).take size

/-- The octets before the first zero. -/
def beforeZero (bytes : Bytes) : Bytes := bytes.takeWhile (· ≠ 0)

/-- The number in a field, in octal digits that may stand between blanks. -/
def octal? (bytes : Bytes) : Option Nat :=
  Text.numeral? 8 (Text.trimChars (Text.Utf8.decodeLossyChars (beforeZero bytes)))

/-- The number in a field of twelve octets: in octal digits or, if the highest bit is set, in the
last eight octets. -/
def number? (bytes : Bytes) : Option Nat :=
  if 0x80 ≤ bytes.headD 0 then some ((bytes.drop 4).foldl (fun n b => 256 * n + b.toNat) 0)
  else octal? bytes

/-- The format of a header. -/
inductive Format where
  | gnu
  | posix
  | old
  deriving DecidableEq

/-- What a member is, or what it tells about the next member. -/
inductive Kind where
  | file
  | hardLink
  | link
  | directory
  /-- A file of which the archive leaves out what is zeros. -/
  | sparse
  | longName
  | longLink
  | records
  /-- Records about all members. -/
  | commonRecords
  deriving DecidableEq

namespace Kind

/-- The mark of a kind in a header. -/
def mark : Kind → UInt8
  | .file => 0x30
  | .hardLink => 0x31
  | .link => 0x32
  | .directory => 0x35
  | .sparse => 0x53
  | .longName => 0x4c
  | .longLink => 0x4b
  | .records => 0x78
  | .commonRecords => 0x67

/-- The kinds that are not files. -/
def others : List Kind :=
  [.hardLink, .link, .directory, .sparse, .longName, .longLink, .records, .commonRecords]

/-- The kind with a mark; what has no mark of its own is a file. -/
def ofMark (b : UInt8) : Kind := (others.find? (·.mark = b)).getD .file

/-- Every kind is found by its mark. -/
@[simp] theorem ofMark_mark (k : Kind) : ofMark k.mark = k := by
  cases k <;> decide

end Kind

/-- A header. -/
structure Header where
  bytes : Bytes

namespace Header

/-- Whether there is nothing in the header, which ends an archive. -/
def isZero (h : Header) : Bool := h.bytes.all (· = 0)

/-- The sum of the octets, with blanks in the place of the sum itself. -/
def sum (h : Header) : Nat :=
  (h.bytes.take 148 ++ List.replicate 8 0x20 ++ h.bytes.drop 156).foldl
    (fun sum (b : UInt8) => sum + b.toNat) 0

/-- Whether the header states its sum. -/
def isIntact (h : Header) : Bool := octal? (field h.bytes 148 8) == some h.sum

/-- What the member is. -/
def kind (h : Header) : Kind := .ofMark ((h.bytes.drop 156).headD 0)

/-- The format. -/
def format (h : Header) : Format :=
  let mark := field h.bytes 257 8
  if mark = Text.Utf8.encode "ustar  \x00" then .gnu
  else if mark = Text.Utf8.encode "ustar\x0000" then .posix
  else .old

/-- The size of the content. -/
def size? (h : Header) : Option Nat := number? (field h.bytes 124 12)

/-- The mode. -/
def mode? (h : Header) : Option Nat := octal? (field h.bytes 100 8)

/-- The name. -/
def name (h : Header) : Bytes :=
  let name := beforeZero (field h.bytes 0 100)
  let front := beforeZero (field h.bytes 345 155)
  if h.format = .posix ∧ front ≠ [] then front ++ 0x2f :: name else name

/-- What a link leads to; nothing for a member without a link. -/
def link (h : Header) : Bytes := beforeZero (field h.bytes 157 100)

end Header

end RpmProvision.Archive.Tar
