import CardFirmware.Bytes

/-! Decompression of deflate streams. Bits are taken from the low end of each byte; codes are kept
as binary trees, a missing branch standing for a code that nothing uses. -/

namespace CardFirmware.Deflate

abbrev Bits := List Bool

def bitsOfByte (b : UInt8) : Bits := (List.range 8).map fun i => b.toNat.testBit i

def bitsOfBytes (b : Bytes) : Bits := b.flatMap bitsOfByte

/-- Takes a number of `n` bits, the least significant one first. -/
def takeNumber : Nat → Bits → Option (Nat × Bits)
  | 0, bits => some (0, bits)
  | _ + 1, [] => none
  | n + 1, b :: bits => (takeNumber n bits).map fun (v, r) => (b.toNat + 2 * v, r)

inductive CodeTree where
  | empty
  | leaf (symbol : Nat)
  | node (zero one : CodeTree)

namespace CodeTree

def insert (symbol : Nat) : Bits → CodeTree → CodeTree
  | [], _ => .leaf symbol
  | false :: code, .node zero one => .node (insert symbol code zero) one
  | true :: code, .node zero one => .node zero (insert symbol code one)
  | false :: code, _ => .node (insert symbol code .empty) .empty
  | true :: code, _ => .node .empty (insert symbol code .empty)

def read : CodeTree → Bits → Option (Nat × Bits)
  | .leaf symbol, bits => some (symbol, bits)
  | .node zero one, b :: bits => if b then read one bits else read zero bits
  | _, _ => none

/-- The bits of a code of the given length, the most significant one first. -/
def codeBits (length code : Nat) : Bits :=
  (List.range length).map fun i => code.testBit (length - 1 - i)

def assign (length : Nat) : List Nat → Nat → Nat → CodeTree → Nat × CodeTree
  | [], _, code, tree => (code, tree)
  | l :: ls, symbol, code, tree =>
    if l = length then
      assign length ls (symbol + 1) (code + 1) (tree.insert symbol (codeBits length code))
    else assign length ls (symbol + 1) code tree

def isComplete (lengths : List Nat) : Bool :=
  (lengths.filter (0 < ·)).foldl (fun n l => n + (1 <<< (15 - l))) 0 == 1 <<< 15

def isTrivial (lengths : List Nat) : Bool :=
  let used := lengths.filter (0 < ·)
  used == [] || used == [1]

/-- The canonical code with the given length a symbol, zero meaning no code. Incomplete codes are
refused, except for a trivial one if `lenient`. -/
def ofLengths (lenient : Bool) (lengths : List Nat) : Option CodeTree :=
  if isComplete lengths || (lenient && isTrivial lengths) then
    let (_, tree) := (List.range 15).foldl
      (fun (code, tree) i => assign (i + 1) lengths 0 (code * 2) tree) (0, .empty)
    some tree
  else none

end CodeTree

def fixedLiterals : List Nat :=
  List.replicate 144 8 ++ List.replicate 112 9 ++ List.replicate 24 7 ++ List.replicate 8 8

def fixedDistances : List Nat := List.replicate 32 5

def lengthOrder : List Nat := [16, 17, 18, 0, 8, 7, 9, 6, 10, 5, 11, 4, 12, 3, 13, 2, 14, 1, 15]

/-- Base and number of extra bits of each copy length, from symbol 257 on. -/
def lengthBases : List (Nat × Nat) :=
  [(3, 0), (4, 0), (5, 0), (6, 0), (7, 0), (8, 0), (9, 0), (10, 0), (11, 1), (13, 1), (15, 1),
    (17, 1), (19, 2), (23, 2), (27, 2), (31, 2), (35, 3), (43, 3), (51, 3), (59, 3), (67, 4),
    (83, 4), (99, 4), (115, 4), (131, 5), (163, 5), (195, 5), (227, 5), (258, 0)]

def distanceBases : List (Nat × Nat) :=
  [(1, 0), (2, 0), (3, 0), (4, 0), (5, 1), (7, 1), (9, 2), (13, 2), (17, 3), (25, 3), (33, 4),
    (49, 4), (65, 5), (97, 5), (129, 6), (193, 6), (257, 7), (385, 7), (513, 8), (769, 8),
    (1025, 9), (1537, 9), (2049, 10), (3073, 10), (4097, 11), (6145, 11), (8193, 12),
    (12289, 12), (16385, 13), (24577, 13)]

def readTriples : Nat → Bits → Option (List Nat × Bits)
  | 0, bits => some ([], bits)
  | n + 1, bits => do
    let (v, bits) ← takeNumber 3 bits
    let (vs, bits) ← readTriples n bits
    some (v :: vs, bits)

/-- Reads code lengths until `total` are known, which no repetition may overshoot. The lengths
known so far are kept in reverse. -/
def readLengths (tree : CodeTree) (total : Nat) :
    Nat → List Nat → Bits → Option (List Nat × Bits)
  | 0, known, bits => if known.length = total then some (known.reverse, bits) else none
  | fuel + 1, known, bits =>
    if known.length = total then some (known.reverse, bits)
    else if known.length > total then none
    else do
      let (symbol, bits) ← tree.read bits
      if symbol < 16 then readLengths tree total fuel (symbol :: known) bits
      else if symbol = 16 then do
        let last ← known.head?
        let (n, bits) ← takeNumber 2 bits
        readLengths tree total fuel (List.replicate (n + 3) last ++ known) bits
      else if symbol = 17 then do
        let (n, bits) ← takeNumber 3 bits
        readLengths tree total fuel (List.replicate (n + 3) 0 ++ known) bits
      else do
        let (n, bits) ← takeNumber 7 bits
        readLengths tree total fuel (List.replicate (n + 11) 0 ++ known) bits

def readTrees (bits : Bits) : Option (CodeTree × CodeTree × Bits) := do
  let (literals, bits) ← takeNumber 5 bits
  let (distances, bits) ← takeNumber 5 bits
  let (count, bits) ← takeNumber 4 bits
  let literals := literals + 257
  let distances := distances + 1
  if literals > 286 ∨ distances > 30 then none
  else do
    let (triples, bits) ← readTriples (count + 4) bits
    let stored := lengthOrder.zip triples
    let tree ← CodeTree.ofLengths false
      ((List.range 19).map fun s => (stored.lookup s).getD 0)
    let total := literals + distances
    let (lengths, bits) ← readLengths tree total total [] bits
    let literalTree ← CodeTree.ofLengths true (lengths.take literals)
    let distanceTree ← CodeTree.ofLengths true (lengths.drop literals)
    some (literalTree, distanceTree, bits)

def copy (distance : Nat) : Nat → Array UInt8 → Array UInt8
  | 0, out => out
  | n + 1, out => copy distance n (out.push (out.getD (out.size - distance) 0))

def readSymbols (literals distances : CodeTree) :
    Nat → Bits → Array UInt8 → Option (Bits × Array UInt8)
  | 0, _, _ => none
  | fuel + 1, bits, out => do
    let (symbol, bits) ← literals.read bits
    if symbol < 256 then readSymbols literals distances fuel bits (out.push (UInt8.ofNat symbol))
    else if symbol = 256 then some (bits, out)
    else do
      let (base, extra) ← lengthBases[symbol - 257]?
      let (more, bits) ← takeNumber extra bits
      let (d, bits) ← distances.read bits
      let (distanceBase, extra) ← distanceBases[d]?
      let (further, bits) ← takeNumber extra bits
      let distance := distanceBase + further
      if distance > out.size then none
      else readSymbols literals distances fuel bits (copy distance (base + more) out)

def takeBytes : Nat → Bits → Array UInt8 → Option (Bits × Array UInt8)
  | 0, bits, out => some (bits, out)
  | n + 1, bits, out => do
    let (v, bits) ← takeNumber 8 bits
    takeBytes n bits (out.push (UInt8.ofNat v))

def alignBits (bits : Bits) : Bits := bits.drop (bits.length % 8)

def readBlocks : Nat → Bits → Array UInt8 → Option (Bits × Array UInt8)
  | 0, _, _ => none
  | fuel + 1, bits, out => do
    let (last, bits) ← takeNumber 1 bits
    let (kind, bits) ← takeNumber 2 bits
    let (bits, out) ←
      if kind = 0 then do
        let (length, bits) ← takeNumber 16 (alignBits bits)
        let (complement, bits) ← takeNumber 16 bits
        if length + complement = 65535 then takeBytes length bits out else none
      else if kind = 1 then do
        let literals ← CodeTree.ofLengths true fixedLiterals
        let distances ← CodeTree.ofLengths true fixedDistances
        readSymbols literals distances bits.length bits out
      else if kind = 2 then do
        let (literals, distances, bits) ← readTrees bits
        readSymbols literals distances bits.length bits out
      else none
    if last = 1 then some (bits, out) else readBlocks fuel bits out

end CardFirmware.Deflate
