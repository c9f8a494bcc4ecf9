/-
Files with gaps in TAR archives.

The archive holds only the pieces of such a file that are not zeros. Which pieces these are is told
by entries in the header, and in further blocks after it. A piece starts where the archive has a
block boundary, pieces do not overlap, and together they use up the content.

* **`pieces?`** — the pieces of a file, and what follows the blocks that tell them;
* **`fill`** — the content of the file.
-/
import RpmProvision.Archive.Tar.Header

namespace RpmProvision.Archive.Tar

/-- A piece of a file: how many zeros come before it, and its size. -/
structure Piece where
  gap : Nat
  size : Nat

namespace Sparse

/-- Pieces that were told so far, the last one first, where the last one ends in the file, and how
much of the content they leave. -/
structure Plan where
  pieces : List Piece
  position : Nat
  left : Nat

/-- Add the piece that an entry tells; an entry without numbers tells none. -/
def Plan.add? (size : Nat) (p : Plan) (entry : Bytes) : Option Plan := do
  if entry.headD 0 = 0 ∨ (entry.drop 12).headD 0 = 0 then some p
  else
    let start ← number? (entry.take 12)
    let length ← number? (entry.drop 12)
    if (length ≠ 0 ∧ (size - p.left) % blockSize ≠ 0) ∨ start < p.position
        ∨ Text.wordBound ≤ start + length ∨ p.left < length then none
    else some ⟨⟨start - p.position, length⟩ :: p.pieces, start + length, p.left - length⟩

/-- Add the pieces that `n` entries tell. -/
def Plan.addAll? (size n : Nat) (bytes : Bytes) (p : Plan) : Option Plan :=
  (List.range n).foldlM (fun p k => p.add? size (field bytes (24 * k) 24)) p

/-- Add the pieces that further blocks tell, at most `n` of them; each says whether there is one
more. The result has what follows the blocks, too. -/
def Plan.extend? (size : Nat) (more : Bool) (bytes : Bytes) (p : Plan) :
    Nat → Option (Plan × Bytes)
  | 0 => if more then none else some (p, bytes)
  | n + 1 =>
    if !more then some (p, bytes)
    else do
      let block := bytes.take blockSize
      if block.length < blockSize then none
      else
        let p ← p.addAll? size 21 block
        p.extend? size ((block.drop 504).headD 0 == 1) (bytes.drop blockSize) n

/-- The pieces of a file with a header, whose content has a size, and what follows the blocks that
tell them. -/
def pieces? (h : Header) (size : Nat) (rest : Bytes) : Option (List Piece × Bytes) := do
  if h.format ≠ .gnu then none
  else
    let p ← Plan.addAll? size 4 (h.bytes.drop 386) ⟨[], 0, size⟩
    let (p, rest) ← p.extend? size ((h.bytes.drop 482).headD 0 == 1) rest
      (rest.length / blockSize + 1)
    let whole ← number? (field h.bytes 483 12)
    if p.position = whole ∧ p.left = 0 then some (p.pieces.reverse, rest) else none

/-- The largest gap that can be made. -/
def maxGap : Nat := 1 <<< 26

/-- The content that pieces make of octets, and whether the octets were enough for it. -/
def fill : List Piece → Bytes → Bytes × Bool
  | [], _ => ([], true)
  | p :: more, bytes =>
    if maxGap < p.gap then ([], false)
    else
      let data := bytes.take p.size
      if data.length < p.size then (List.replicate p.gap 0 ++ data, false)
      else
        let (content, isWhole) := fill more (bytes.drop p.size)
        (List.replicate p.gap 0 ++ data ++ content, isWhole)

end Sparse

end RpmProvision.Archive.Tar
