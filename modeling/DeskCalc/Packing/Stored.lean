import DeskCalc.Packing.Bits
import DeskCalc.Text.Quoted

/-!
# Formats that keep the data as it is

A gzip file has one member in stored blocks, with neither a name nor a time.

An xz file has one stream of one block, in chunks of the second LZMA format. The index after the
block has the sizes of it, the footer has the size of the index.

A zip archive has one member, with a header in front of its data and an entry in the directory after
it, which repeat each other. The member is dated with the first day that the format knows.

A tar archive has one regular file, which has neither owner nor time. A file is a header and the
data, each in whole blocks. Numbers are in octal digits, texts end in zeros. A name that the header
has no room for, or that is not ASCII, is in a record of its own before the header, as the data of
an entry of another kind; the header then has what fits of the name, with question marks for the
other characters. Two empty blocks end the archive, which is a whole number of records of twenty
blocks.
-/

namespace DeskCalc.Packing

namespace Gzip

/-- The most bytes that a stored block can hold. -/
def blockSize : Nat := 65535

/-- A stored block: whether it is the last, its length and the complement of that, its bytes. -/
def block (isLast : Bool) (bytes : List UInt8) : List UInt8 :=
  .ofNat isLast.toNat :: lowFirst 2 bytes.length ++ lowFirst 2 (blockSize - bytes.length) ++ bytes

/-- Bytes in stored blocks. The last is empty. -/
def blocks (bytes : List UInt8) : List UInt8 :=
  (pieces blockSize bytes).flatMap (block false) ++ block true []

/-- The mark of the format, the method, no flags, no time, no hint, an unknown system. -/
def header : List UInt8 :=
  [0x1F, 0x8B, 8, 0] ++ lowFirst 4 0 ++ [0, 255]

/-- The data as a gzip file, with its checksum and its length at the end. -/
def pack (bytes : List UInt8) : List UInt8 :=
  header ++ blocks bytes ++ lowFirst 4 (checksumLowFirst bytes).toNat ++ lowFirst 4 bytes.length

end Gzip

namespace Xz

/-- Bytes followed by their checksum. -/
def sealed (bytes : List UInt8) : List UInt8 :=
  bytes ++ lowFirst 4 (checksumLowFirst bytes).toNat

/-- A number in as few groups of seven bits as it has, the lowest first, each but the last marked.
Numbers of at most `groups` groups are complete. -/
def groupsOf : Nat → Nat → List UInt8
  | 0, _ => []
  | groups + 1, n =>
    if n < 128 then [.ofNat n] else .ofNat (n % 128 + 128) :: groupsOf groups (n / 128)

/-- A size in groups of seven bits, of which it has at most nine. -/
def size (n : Nat) : List UInt8 := groupsOf 9 n

/-- The most bytes that a chunk can hold. -/
def chunkSize : Nat := 65536

/-- A chunk of bytes kept as they are, each with a new dictionary. -/
def chunk (bytes : List UInt8) : List UInt8 :=
  1 :: highFirst 2 (bytes.length - 1) ++ bytes

/-- Bytes in chunks, with the mark of their end. -/
def chunks (bytes : List UInt8) : List UInt8 :=
  (pieces chunkSize bytes).flatMap chunk ++ [0]

/-- The kind of checksum that the data has: four bytes. -/
def flags : List UInt8 := [0, 1]

/-- The mark of the format and the flags. -/
def streamHeader : List UInt8 :=
  [0xFD, 0x37, 0x7A, 0x58, 0x5A, 0x00] ++ flags ++ lowFirst 4 (checksumLowFirst flags).toNat

/-- A header of three units of four bytes: one filter, with one byte for the size of a dictionary
that a chunk fits into. -/
def blockHeader : List UInt8 :=
  sealed [2, 0, 0x21, 1, 8, 0, 0, 0]

/-- The sizes of the one block: without its padding, and of the data in it. -/
def index (packed unpacked : Nat) : List UInt8 :=
  sealed (padded 4 ([0, 1] ++ size packed ++ size unpacked))

/-- The number of units of four bytes that the index has, less one, and the flags. -/
def footer (index : List UInt8) : List UInt8 :=
  let fields := lowFirst 4 (index.length / 4 - 1) ++ flags
  lowFirst 4 (checksumLowFirst fields).toNat ++ fields ++ [0x59, 0x5A]

/-- The data as an xz file. -/
def pack (bytes : List UInt8) : List UInt8 :=
  let data := chunks bytes
  let index := index (blockHeader.length + data.length + 4) bytes.length
  streamHeader ++ blockHeader ++ padded 4 data ++ lowFirst 4 (checksumLowFirst bytes).toNat ++
    index ++ footer index

end Xz

namespace Zip

/-- The first of January 1980: day, month and years since then. -/
def firstDay : Nat := 1 + 32 * 1

/-- The bit of the flags that says that the name is UTF-8. -/
def utf8Names : Nat := 0x800

/-- What the header and the entry of a member have in common: the version that reads it, the flags,
no method, the time, the checksum and the sizes of the data, the length of the name, no extras. -/
def fields (name : String) (bytes : List UInt8) : List UInt8 :=
  lowFirst 2 20 ++ lowFirst 2 (if name.toList.all (·.toNat < 128) then 0 else utf8Names) ++
    lowFirst 2 0 ++ lowFirst 2 0 ++ lowFirst 2 firstDay ++
    lowFirst 4 (checksumLowFirst bytes).toNat ++ lowFirst 4 bytes.length ++
    lowFirst 4 bytes.length ++ lowFirst 2 name.utf8ByteSize ++ lowFirst 2 0

/-- A member: its header and its data. -/
def member (name : String) (bytes : List UInt8) : List UInt8 :=
  [0x50, 0x4B, 3, 4] ++ fields name bytes ++ name.toUTF8.toList ++ bytes

/-- The entry of the member at the start of the archive: the version that made it, the fields of
its header, no comment, the first volume, no attributes, its position. -/
def entry (name : String) (bytes : List UInt8) : List UInt8 :=
  [0x50, 0x4B, 1, 2] ++ lowFirst 2 20 ++ fields name bytes ++ lowFirst 2 0 ++ lowFirst 2 0 ++
    lowFirst 2 0 ++ lowFirst 4 0 ++ lowFirst 4 0 ++ name.toUTF8.toList

/-- The end of an archive with one volume and one entry: the size of the directory, its position,
no comment. -/
def ending (size position : Nat) : List UInt8 :=
  [0x50, 0x4B, 5, 6] ++ lowFirst 2 0 ++ lowFirst 2 0 ++ lowFirst 2 1 ++ lowFirst 2 1 ++
    lowFirst 4 size ++ lowFirst 4 position ++ lowFirst 2 0

/-- The data as the one member of an archive. -/
def pack (name : String) (bytes : List UInt8) : List UInt8 :=
  let member := member name bytes
  let entry := entry name bytes
  member ++ entry ++ ending entry.length member.length

end Zip

namespace Tar

/-- Number of bytes in a block. -/
def blockSize : Nat := 512

/-- Number of bytes in a record of blocks. -/
def recordSize : Nat := 20 * blockSize

/-- The most characters of a name that a header has room for. -/
def nameSize : Nat := 100

/-- What an entry of the archive holds. -/
inductive Kind
  | regular
  /-- Records for the header of the next entry. -/
  | extension

/-- The letter of a kind. -/
def Kind.letter : Kind → Char
  | regular => '0'
  | extension => 'x'

/-- An entry of the archive. -/
structure Entry where
  name : String
  /-- Who may read and write the file. -/
  permissions : Nat
  kind : Kind
  data : List UInt8

/-- The characters as bytes, a question mark for each that is not ASCII. -/
def ascii (s : List Char) : List UInt8 :=
  s.map fun c => if c.toNat < 128 then .ofNat c.toNat else .ofNat '?'.toNat

/-- A text in a field of `width` bytes. -/
def text (width : Nat) (s : String) : List UInt8 :=
  let bytes := (ascii s.toList).take width
  bytes ++ List.replicate (width - bytes.length) 0

/-- A number in a field of `width` bytes, the last of which is zero. -/
def octal (width n : Nat) : List UInt8 :=
  ascii (Text.lastDigits 8 (width - 1) n) ++ [0]

namespace Entry

/-- The fields of the header before its checksum: name, permissions, owner and group, size and
time. -/
def fieldsBefore (e : Entry) : List UInt8 :=
  text nameSize e.name ++ octal 8 e.permissions ++ octal 8 0 ++ octal 8 0 ++
    octal 12 e.data.length ++ octal 12 0

/-- The fields of the header after its checksum: kind, no target of a link, the mark and the version
of the format, no names of owner and group, no device. -/
def fieldsAfter (e : Entry) : List UInt8 :=
  ascii [e.kind.letter] ++ text nameSize "" ++ text 6 "ustar" ++ ascii ['0', '0'] ++ text 32 "" ++
    text 32 "" ++ text 8 "" ++ text 8 ""

/-- The sum of the bytes of the header, the checksum counted as eight blanks. -/
def sum (e : Entry) : Nat :=
  (fieldsBefore e ++ ascii (List.replicate 8 ' ') ++ fieldsAfter e).foldl (fun n b => n + b.toNat) 0

/-- The header of an entry. -/
def header (e : Entry) : List UInt8 :=
  padded blockSize (fieldsBefore e ++ octal 7 e.sum ++ ascii [' '] ++ fieldsAfter e)

/-- The blocks of an entry. -/
def blocks (e : Entry) : List UInt8 :=
  e.header ++ padded blockSize e.data

end Entry

/-- The record for a name. It starts with its own length, whose digits count. -/
def nameRecord (name : String) : List UInt8 :=
  let rest := " path=".toUTF8.toList ++ name.toUTF8.toList ++ "\n".toUTF8.toList
  let digits (n : Nat) : Nat := (Nat.toDigits 10 n).length
  let length := rest.length + digits (rest.length + digits rest.length)
  ascii (Nat.toDigits 10 length) ++ rest

/-- The entry that gives the name of the next one, if a header cannot. -/
def extension? (name : String) : Option Entry :=
  if name.toList.all (·.toNat < 128) ∧ name.length ≤ nameSize then none
  else some ⟨"././@PaxHeader", 0, .extension, nameRecord name⟩

/-- The entries for a file. -/
def entries (name : String) (bytes : List UInt8) : List Entry :=
  (extension? name).toList ++ [⟨name, 0o644, .regular, bytes⟩]

/-- The data as the one file of an archive. -/
def pack (name : String) (bytes : List UInt8) : List UInt8 :=
  padded recordSize
    ((entries name bytes).flatMap Entry.blocks ++ List.replicate (2 * blockSize) 0)

end Tar

end DeskCalc.Packing
