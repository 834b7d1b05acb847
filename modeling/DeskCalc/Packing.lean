import DeskCalc.Files.Path
import DeskCalc.Packing.Bzip2
import DeskCalc.Packing.Stored

/-!
# Packed files

The ending of a path says whether a file is packed, and how: compressed, or as the one member of an
archive, which may be compressed in turn. Letters count in any case, but an archive is compressed
only if the ending that says so is in small letters. Two colons divide a path into links of a chain;
the ending that counts is that of the first link, though the file is at the whole path.
-/

namespace DeskCalc

/-- A format that packs data alone. -/
inductive Compression
  | gzip
  | bzip2
  | xz
  deriving DecidableEq

/-- How a file is packed. -/
inductive Packing
  | tar
  | compressed (c : Compression)
  | zip
  /-- A format that nothing here can write. -/
  | zstandard
  deriving DecidableEq

namespace Compression

/-- The data in a format. -/
def pack : Compression → List UInt8 → List UInt8
  | gzip => Packing.Gzip.pack
  | bzip2 => Packing.Bzip2.pack
  | xz => Packing.Xz.pack

/-- The format of an archive that has this after the last dot of its name. -/
def ofSuffix? : String → Option Compression
  | ".gz" => some gzip
  | ".bz2" => some bzip2
  | ".xz" => some xz
  | _ => none

end Compression

namespace Packing

/-- The endings. The first that fits counts. -/
def endings : List (String × Packing) :=
  [(".tar", tar), (".tar.gz", tar), (".tar.bz2", tar), (".tar.xz", tar),
   (".gz", compressed .gzip), (".bz2", compressed .bzip2), (".zip", zip),
   (".xz", compressed .xz), (".zst", zstandard)]

/-- A path up to the first two colons in a row, or the whole path if there are none. -/
def firstLink : List Char → List Char
  | ':' :: ':' :: _ => []
  | c :: rest => c :: firstLink rest
  | [] => []

/-- How the file at a path is packed, if it is. -/
def ofPath? (path : String) : Option Packing :=
  let link := (firstLink path.toList).map Char.toLower
  (endings.find? fun (ending, _) => ending.toList.isSuffixOf link).map (·.2)

/-- The name of the file at a path. -/
def fileName (path : String) : String := (Files.components path).getLast?.getD ""

/-- A name before its last dot, and from there on. A dot at either end divides nothing. -/
def divided (name : String) : String × String :=
  let after := name.toList.reverse.takeWhile (· ≠ '.')
  let before := name.toList.reverse.drop (after.length + 1)
  if after.isEmpty ∨ before.isEmpty then (name, "")
  else (.ofList before.reverse, .ofList ('.' :: after.reverse))

/-- The name of the one member of an archive with this ending: that of the archive without it. -/
def memberName (ending path : String) : String :=
  let (stem, suffix) := divided (fileName path)
  if suffix = ending then stem else fileName path

/-- The data of a file at a path, unless nothing here can pack it. -/
def pack? (path : String) (bytes : List UInt8) : Packing → Option (List UInt8)
  | tar =>
    let archive := Tar.pack (memberName ".tar" path) bytes
    match Compression.ofSuffix? (divided (fileName path)).2 with
    | some c => some (c.pack archive)
    | none => some archive
  | compressed c => some (c.pack bytes)
  | zip => some (Zip.pack (memberName ".zip" path) bytes)
  | zstandard => none

end Packing

end DeskCalc
