/-
Compressed data in the DEFLATE format.

The data is a sequence of blocks. A block holds octets as they are, or symbols in a prefix code:
an octet, the end of the block, or a reference to octets that came before. Prefix codes are given by
the lengths of their code words: shorter words come first, and words of one length stand in the
order of their symbols.

* **`inflate`** — the octets that the data stands for, as far as they could be read.
-/
import RpmProvision.Archive.Bits

namespace RpmProvision.Archive

/-- A prefix code: for each length of code words from one up to the longest one, the symbols with
such a word, in the order of their words. -/
structure PrefixCode where
  groups : List (List Nat)

namespace PrefixCode

/-- The longest code word. -/
def maxLength : Nat := 15

/-- The code in which symbol `i` has a word of the `i`-th length; zero stands for no word. -/
def ofLengths (lengths : List Nat) : PrefixCode :=
  ⟨(((List.range maxLength).map fun k =>
    lengths.zipIdx.filterMap fun p => if p.1 = k + 1 then some p.2 else none).reverse.dropWhile
      List.isEmpty).reverse⟩

/-- The lengths of the words. -/
def present (lengths : List Nat) : List Nat := lengths.filter (· ≠ 0)

/-- Whether the words use up all combinations of bits. -/
def isComplete (lengths : List Nat) : Bool :=
  let share := fun n => 1 <<< (maxLength - n)
  (present lengths).foldl (fun sum n => sum + share n) 0 == share 0

/-- Whether there is no word, or a single one, which has one bit. -/
def isTrivial (lengths : List Nat) : Bool := present lengths == [] || present lengths == [1]

/-- The code of the lengths, if they are fit for one. -/
def checked (isFit : List Nat → Bool) (lengths : List Nat) :
    Step BitSource DataFault PrefixCode :=
  if isFit lengths then pure (ofLengths lengths) else Step.fail .damaged

/-- Read a symbol whose word is at least as long as the groups say: `code` is what has been read of
it, and `first` the first word of that length. -/
def symbolIn : List (List Nat) → Nat → Nat → Step BitSource DataFault Nat
  | [], _, _ => Step.fail .damaged
  | group :: longer, code, first => do
    let low ← BitSource.bit
    let code := 2 * code + low.toNat
    match group[code - 2 * first]? with
    | some symbol => pure symbol
    | none => symbolIn longer code (2 * first + group.length)

/-- Read a symbol. -/
def symbol (c : PrefixCode) : Step BitSource DataFault Nat := symbolIn c.groups 0 0

end PrefixCode

/-- Data being decompressed: what is still to be read, and the octets so far. -/
structure Inflation where
  source : BitSource
  output : Array UInt8

namespace Inflation

/-- Read from the source. -/
def reading {α : Type} (x : Step BitSource DataFault α) : Step Inflation DataFault α :=
  x.within Inflation.source fun source s => { s with source }

/-- Add an octet to the output. -/
def emit (b : UInt8) : Step Inflation DataFault Unit :=
  Step.modify fun s => { s with output := s.output.push b }

/-- Repeat `n` octets of the output, beginning `distance` octets before its end. What is before the
start of the output counts as zeros. -/
def copyBack (distance : Nat) : Nat → Step Inflation DataFault Unit
  | 0 => pure ()
  | n + 1 => do
    let size ← Step.asks fun s => s.output.size
    let b ← Step.asks fun s =>
      if size < distance then 0 else (s.output[size - distance]?).getD 0
    emit b
    copyBack distance n

/-- The least value and the number of further bits of a symbol for a length. -/
def lengthBase : List (Nat × Nat) :=
  [(3, 0), (4, 0), (5, 0), (6, 0), (7, 0), (8, 0), (9, 0), (10, 0), (11, 1), (13, 1), (15, 1),
    (17, 1), (19, 2), (23, 2), (27, 2), (31, 2), (35, 3), (43, 3), (51, 3), (59, 3), (67, 4),
    (83, 4), (99, 4), (115, 4), (131, 5), (163, 5), (195, 5), (227, 5), (258, 0)]

/-- The least value and the number of further bits of a symbol for a distance. -/
def distanceBase : List (Nat × Nat) :=
  [(1, 0), (2, 0), (3, 0), (4, 0), (5, 1), (7, 1), (9, 2), (13, 2), (17, 3), (25, 3), (33, 4),
    (49, 4), (65, 5), (97, 5), (129, 6), (193, 6), (257, 7), (385, 7), (513, 8), (769, 8),
    (1025, 9), (1537, 9), (2049, 10), (3073, 10), (4097, 11), (6145, 11), (8193, 12), (12289, 12),
    (16385, 13), (24577, 13)]

/-- The value of a symbol whose further bits follow. -/
def extended (base : List (Nat × Nat)) (symbol : Nat) : Step BitSource DataFault Nat :=
  match base[symbol]? with
  | none => Step.fail .damaged
  | some (least, bits) => do
    let more ← BitSource.number bits
    pure (least + more)

/-- The symbol that ends a block. -/
def endOfBlock : Nat := 256

/-- Read the symbols of a block. Each takes at least a bit, so `fuel` need not exceed the bits. -/
def symbols (literals distances : PrefixCode) : Nat → Step Inflation DataFault Unit
  | 0 => Step.fail .truncated
  | fuel + 1 => do
    let symbol ← reading literals.symbol
    if symbol < endOfBlock then do
      emit (UInt8.ofNat symbol)
      symbols literals distances fuel
    else if symbol = endOfBlock then pure ()
    else do
      let length ← reading (extended lengthBase (symbol - endOfBlock - 1))
      let distanceSymbol ← reading distances.symbol
      let distance ← reading (extended distanceBase distanceSymbol)
      copyBack distance length
      symbols literals distances fuel

/-- The code of literals and lengths for blocks that bring none of their own. -/
def fixedLiterals : PrefixCode :=
  .ofLengths (List.replicate 144 8 ++ List.replicate 112 9 ++ List.replicate 24 7
    ++ List.replicate 8 8)

/-- The code of distances for blocks that bring none of their own. -/
def fixedDistances : PrefixCode := .ofLengths (List.replicate 32 5)

/-- The order in which the lengths of the code of code lengths are given. -/
def lengthOrder : List Nat := [16, 17, 18, 0, 8, 7, 9, 6, 10, 5, 11, 4, 12, 3, 13, 2, 14, 1, 15]

/-- Read code lengths until there are `wanted`, the last one first; a symbol from sixteen on
repeats a length. -/
def codeLengths (code : PrefixCode) (wanted : Nat) (before : List Nat) :
    Nat → Step BitSource DataFault (List Nat)
  | 0 => Step.fail .truncated
  | fuel + 1 =>
    if wanted ≤ before.length then
      if before.length = wanted then pure before else Step.fail .damaged
    else do
      let symbol ← code.symbol
      if symbol < 16 then codeLengths code wanted (symbol :: before) fuel
      else if symbol = 16 then
        match before with
        | [] => Step.fail .damaged
        | last :: _ => do
          let n ← BitSource.number 2
          codeLengths code wanted (List.replicate (n + 3) last ++ before) fuel
      else if symbol = 17 then do
        let n ← BitSource.number 3
        codeLengths code wanted (List.replicate (n + 3) 0 ++ before) fuel
      else do
        let n ← BitSource.number 7
        codeLengths code wanted (List.replicate (n + 11) 0 ++ before) fuel

/-- The most literals and lengths, and the most distances, that a block may give code words to. -/
def maxSymbols : Nat × Nat := (286, 30)

/-- Read the two codes that a block brings. -/
def ownCodes : Step BitSource DataFault (PrefixCode × PrefixCode) := do
  let literals := (← BitSource.number 5) + 257
  let distances := (← BitSource.number 5) + 1
  let count := (← BitSource.number 4) + 4
  if maxSymbols.1 < literals || maxSymbols.2 < distances then Step.fail .damaged
  let given ← (List.replicate count 3).mapM BitSource.number
  let code ← PrefixCode.checked PrefixCode.isComplete ((List.range 19).map fun symbol =>
    ((lengthOrder.zip given).lookup symbol).getD 0)
  let lengths ← codeLengths code (literals + distances) [] (literals + distances + 1)
  let isFit := fun lengths => PrefixCode.isComplete lengths || PrefixCode.isTrivial lengths
  let literalCode ← PrefixCode.checked isFit (lengths.reverse.take literals)
  let distanceCode ← PrefixCode.checked isFit (lengths.reverse.drop literals)
  pure (literalCode, distanceCode)

/-- Read a block of octets as they are. -/
def storedBlock : Step Inflation DataFault Unit := do
  reading BitSource.align
  let length ← reading (BitSource.number 16)
  let check ← reading (BitSource.number 16)
  if length + check ≠ 0xffff then Step.fail .damaged
  let bytes ← reading (BitSource.octets length)
  Step.modify fun s => { s with output := s.output ++ bytes.toArray }
  if bytes.length < length then Step.fail .truncated

/-- Read the blocks. Each takes at least three bits, so `fuel` need not exceed the bits. -/
def blocks : Nat → Step Inflation DataFault Unit
  | 0 => Step.fail .truncated
  | fuel + 1 => do
    let isLast ← reading BitSource.bit
    let kind ← reading (BitSource.number 2)
    let bound ← Step.asks fun s => s.source.bound
    if kind = 0 then storedBlock
    else if kind = 1 then symbols fixedLiterals fixedDistances (bound + 1)
    else if kind = 2 then do
      let codes ← reading ownCodes
      symbols codes.1 codes.2 (bound + 1)
    else Step.fail .damaged
    if isLast then pure () else blocks fuel

end Inflation

/-- What compressed data stands for: the octets, what follows the data, and how it ended. -/
structure Inflated where
  output : Bytes
  rest : Bytes
  fault : Option DataFault

/-- Decompress. -/
def inflate (bytes : Bytes) : Inflated :=
  match Inflation.blocks (8 * bytes.length + 1) ⟨.ofBytes bytes, #[]⟩ with
  | (r, s) =>
    { output := s.output.toList
      rest := if s.source.used = 0 then s.source.bytes else s.source.bytes.drop 1
      fault := match r with
        | .ok _ => none
        | .error fault => some fault }

end RpmProvision.Archive
