/-
Archives in the TAR format.

An archive is a sequence of members, each a header followed by the content, filled up to a multiple
of the size of a header. A header of zeros ends the archive. Some members describe the next one:
they hold its name or what it links to, if that is too long for a header, or records about it.

* **`members`** — the members of an archive, as far as they could be read.
-/
import RpmProvision.Archive.Gzip
import RpmProvision.Archive.Tar.Records
import RpmProvision.Archive.Tar.Sparse

namespace RpmProvision.Archive.Tar

/-- What a member of an archive is. -/
inductive Content where
  /-- A directory; most are made only after everything else. -/
  | directory (isLate : Bool)
  /-- A file, and whether all of its content is in the archive. -/
  | file (content : Bytes) (isWhole : Bool)
  | link (target : String)
  /-- A further name of a file. -/
  | hardLink (target : String)
  /-- A description that belongs to no member. -/
  | note
  deriving DecidableEq

/-- A member of an archive. -/
structure Member where
  name : String
  content : Content
  mode : Option Nat
  deriving DecidableEq

/-- Members that could be read, and whether nothing is wrong with the archive after them. -/
structure Listing where
  members : List Member
  isSound : Bool

/-- What members have told about the next member. -/
structure Description where
  name : Option Bytes
  link : Option Bytes
  records : Option Bytes
  deriving DecidableEq

namespace Description

/-- Nothing has been told. -/
def none : Description := ⟨.none, .none, .none⟩

/-- The octets without a zero at the end. -/
def withoutZero (bytes : Bytes) : Bytes :=
  if bytes.getLast? = some 0 then bytes.dropLast else bytes

/-- The value of a record. -/
def record? (d : Description) (key : String) : Option Bytes := d.records.bind (Records.find? key)

/-- The name of a member with a header. -/
def nameOf (d : Description) (h : Header) : Bytes :=
  ((d.name.map withoutZero).or (d.record? "path")).getD h.name

/-- What a link with a header leads to. -/
def linkOf (d : Description) (h : Header) : String :=
  Text.Utf8.decodeLossy (((d.link.map withoutZero).or (d.record? "linkpath")).getD h.link)

/-- The size of the content after a header. -/
def sizeOf? (d : Description) (h : Header) : Option Nat :=
  h.size?.map fun size => (d.records.bind Records.size?).getD size

/-- Take up what the content of a member with a header tells; nothing is told twice. -/
def add? (d : Description) (h : Header) (content : Bytes) : Option Description :=
  match h.kind with
  | .longName => if d.name.isSome then .none else some { d with name := some content }
  | .longLink => if d.link.isSome then .none else some { d with link := some content }
  | _ => if d.records.isSome then .none else some { d with records := some content }

end Description

/-- Whether a member describes the next one. -/
def Header.describes (h : Header) : Bool :=
  h.format ≠ .old && (h.kind = .longName || h.kind = .longLink || h.kind = .records)

/-- Whether a name makes a directory out of what would be a file. -/
def Header.makesDirectory (h : Header) (name : Bytes) : Bool :=
  h.format ≠ .posix && name.getLast? = some 0x2f

/-- The content of a file with a header that gives it a size, and what follows the blocks that tell
the pieces of a file with gaps. -/
def fileOf? (h : Header) (size : Nat) (rest : Bytes) : Option (Content × Bytes) :=
  if h.kind = .sparse then
    (Sparse.pieces? h size rest).map fun p =>
      (.file (Sparse.fill p.1 p.2).1 (Sparse.fill p.1 p.2).2, p.2)
  else
    let content := rest.take size
    some (.file content (content.length == size), rest)

/-- What a member with a header and a name is, and what follows the blocks that tell the pieces of a
file with gaps. -/
def contentOf? (d : Description) (h : Header) (size : Nat) (rest : Bytes) :
    Option (Content × Bytes) :=
  match h.kind with
  | .directory => some (.directory true, rest)
  | .link => some (.link (d.linkOf h), rest)
  | .hardLink => some (.hardLink (d.linkOf h), rest)
  | .longName | .longLink | .records | .commonRecords => some (.note, rest)
  | .file | .sparse =>
    (fileOf? h size rest).map fun p =>
      if h.makesDirectory (d.nameOf h) then (.directory false, p.2) else p

/-- What follows a content, which must be there with what it is filled up with. -/
def skip? (size : Nat) (bytes : Bytes) : Option Bytes :=
  let p := bytes.splitAt (filled size)
  if p.1.length = filled size then some p.2 else none

/-- Read members from a position on, up to which they were described. The positions have to fit in
machine words. Each member takes at least a block, so `fuel` need not exceed the number of
octets. -/
def membersFrom (isSound : Bool) (position : Nat) (d : Description) (bytes : Bytes) :
    Nat → Listing
  | 0 => ⟨[], false⟩
  | fuel + 1 =>
    let h : Header := ⟨bytes.take blockSize⟩
    let rest := bytes.drop blockSize
    if bytes = [] then ⟨[], isSound && d = .none⟩
    else if h.bytes.length < blockSize then ⟨[], false⟩
    else if h.isZero then ⟨[], d = .none⟩
    else if !h.isIntact then ⟨[], false⟩
    else
      match d.sizeOf? h with
      | none => ⟨[], false⟩
      | some size =>
        let next := position + blockSize + filled size
        if Text.wordBound ≤ size + (blockSize - 1) ∨ Text.wordBound ≤ next then ⟨[], false⟩
        else if h.describes then
          match d.add? h (rest.take size), skip? size rest with
          | some d, some rest => membersFrom isSound next d rest fuel
          | _, _ => ⟨[], false⟩
        else
          match contentOf? d h size rest with
          | none => ⟨[], false⟩
          | some (content, rest) =>
            let member : Member := ⟨Text.Utf8.decodeLossy (d.nameOf h), content, h.mode?⟩
            match skip? size rest with
            | none => ⟨[member], false⟩
            | some rest =>
              let more := membersFrom isSound next .none rest fuel
              ⟨member :: more.members, more.isSound⟩

/-- The members of an archive; it is known whether the octets end as they should. -/
def members (unpacked : Gzip.Unpacked) : Listing :=
  membersFrom unpacked.isSound 0 .none unpacked.content (unpacked.content.length + 1)

end RpmProvision.Archive.Tar
