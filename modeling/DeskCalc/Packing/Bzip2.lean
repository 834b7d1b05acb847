import DeskCalc.Packing.Bits

/-!
# The bzip2 format

Data in blocks. In a block runs are shortened, then its rotations are sorted and the last byte of
each is taken, so that bytes before the same text are neighbours: the last byte of a rotation is the
one before its first in the block. Each of these bytes is written as its place in a list of bytes to
whose front it then moves, so that zeros are frequent, and runs of zeros are counted. The results
are symbols of a code whose words all have the same length.
-/

namespace DeskCalc.Packing

/-! ## Rotations -/

/-- A block read from one of its bytes on, and around its end. -/
structure Rotation where
  /-- Position of the first byte. -/
  start : Nat
  /-- The last byte. -/
  last : UInt8
  /-- The bytes, of which a number as large as the block counts. -/
  bytes : List UInt8

namespace Rotation

/-- Bytes are not after others in the order of words. -/
def notAfter : List UInt8 → List UInt8 → Bool
  | [], _ => true
  | _ :: _, [] => false
  | b :: rest, c :: others => b < c || (b == c && notAfter rest others)

/-- The first `count` rotations from a position on, given what is before and what is after it. -/
def allFrom : Nat → Nat → UInt8 → List UInt8 → List Rotation
  | count + 1, start, last, b :: rest =>
    ⟨start, last, b :: rest⟩ :: allFrom count (start + 1) b rest
  | _, _, _, _ => []

/-- The rotations of a block. -/
def all (block : List UInt8) : List Rotation :=
  match block.getLast? with
  | some last => allFrom block.length 0 last (block ++ block)
  | none => []

/-- The rotations of a block in order. Where two agree, what is compared further on decides, and
either may be the first. -/
def sorted (block : List UInt8) : List Rotation :=
  (all block).mergeSort fun r s => notAfter r.bytes s.bytes

end Rotation

namespace Bzip2

/-! ## Runs of bytes -/

/-- The longest run. -/
def longestRun : Nat := 255

/-- The runs of bytes after `n` times the byte `b`. -/
def runsFrom (b : UInt8) (n : Nat) : List UInt8 → List (UInt8 × Nat)
  | [] => [(b, n)]
  | c :: rest =>
    if c = b ∧ n < longestRun then runsFrom b (n + 1) rest else (b, n) :: runsFrom c 1 rest

/-- The runs of bytes, each as long as possible. -/
def runs : List UInt8 → List (UInt8 × Nat)
  | [] => []
  | b :: rest => runsFrom b 1 rest

/-- A run of four bytes or more is four of them and the number of the others. -/
def shortenedRun (b : UInt8) (n : Nat) : List UInt8 :=
  if n < 4 then List.replicate n b else List.replicate 4 b ++ [.ofNat (n - 4)]

/-- Bytes with shortened runs. -/
def shortened (bytes : List UInt8) : List UInt8 :=
  (runs bytes).flatMap fun (b, n) => shortenedRun b n

/-! ## Symbols -/

/-- The place of each byte in a list of bytes, to whose front it then moves. -/
def places : List UInt8 → List UInt8 → List Nat
  | _, [] => []
  | order, b :: rest => order.idxOf b :: places (b :: order.erase b) rest

/-- A number of zeros in base two with the digits one and two, the lowest first. The symbols of the
digits are zero and one. -/
def countSymbols : Nat → List Nat
  | 0 => []
  | n + 1 => n % 2 :: countSymbols (n / 2)

/-- The symbols of places after a number of zeros. -/
def symbolsFrom (zeros : Nat) : List Nat → List Nat
  | [] => countSymbols zeros
  | 0 :: rest => symbolsFrom (zeros + 1) rest
  | (place + 1) :: rest => countSymbols zeros ++ (place + 2) :: symbolsFrom 0 rest

/-- The symbols of bytes that are among `used`, and the one that ends them. -/
def symbols (used bytes : List UInt8) : List Nat :=
  symbolsFrom 0 (places used bytes) ++ [used.length + 1]

/-! ## Blocks -/

/-- The bytes that occur, from the lowest to the highest. -/
def usedBytes (bytes : List UInt8) : List UInt8 :=
  ((List.range 256).map .ofNat).filter (bytes.contains ·)

/-- Which groups of sixteen bytes are used, and of each that is which bytes are. -/
def usedMap (used : List UInt8) : List Bool :=
  let group (k : Nat) : List Bool :=
    (List.range 16).map fun i => used.contains (.ofNat (16 * k + i))
  let groups := (List.range 16).map group
  groups.map (·.any id) ++ (groups.filter (·.any id)).flatten

/-- The number of bits that `count` words of one length need. -/
def wordSize (count : Nat) : Nat := (count - 1).log2 + 1

/-- Symbols in a code for `count` of them. There have to be two codes to choose from for each fifty
symbols; they are equal, and always the first is chosen. A code is the length of its first word and
how each of its words differs from the one before, which is not at all. -/
def coded (count : Nat) (symbols : List Nat) : List Bool :=
  let size := wordSize count
  let choices := (symbols.length + 49) / 50
  let code := bits 5 size ++ List.replicate count false
  bits 3 2 ++ bits 15 choices ++ List.replicate choices false ++ code ++ code ++
    symbols.flatMap (bits size)

/-- A block: its mark, its checksum, where the rotation that is the block itself is among the
others, the bytes used, the symbols. -/
def block (bytes : List UInt8) : List Bool :=
  let short := shortened bytes
  let rotations := Rotation.sorted short
  let used := usedBytes short
  bits 48 0x314159265359 ++ bits 32 (checksumHighFirst bytes).toNat ++ [false] ++
    bits 24 (rotations.findIdx (·.start = 0)) ++ usedMap used ++
    coded (used.length + 2) (symbols used (rotations.map (·.last)))

/-! ## Files -/

/-- So many bytes fill no block, whatever becomes of their runs. -/
def blockSize : Nat := 700000

/-- A checksum for all blocks from theirs. -/
def joined (checksums : List UInt32) : UInt32 :=
  checksums.foldl (fun all one => (all <<< 1 ||| all >>> 31) ^^^ one) 0

/-- The mark of the format, for blocks of nine hundred thousand bytes. -/
def header : List UInt8 := [0x42, 0x5A, 0x68, 0x39]

/-- The data as a bzip2 file. -/
def pack (bytes : List UInt8) : List UInt8 :=
  let parts := pieces blockSize bytes
  header ++ bytesOfBits
    (parts.flatMap block ++ bits 48 0x177245385090 ++
      bits 32 (joined (parts.map checksumHighFirst)).toNat)

end Bzip2

end DeskCalc.Packing
