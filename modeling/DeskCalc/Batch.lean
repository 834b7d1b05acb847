import DeskCalc.Files.Address
import DeskCalc.Packing
import DeskCalc.Report

/-!
# Batches

Expressions from a file, one a line: blank lines count for nothing, nor do the blanks around an
expression. All of them are evaluated in the order of the file, and the rows can be written to
another file, packed if its path has the ending of a packed file. What is logged on the way is the
number of expressions that failed, and, for the curious, each step.
-/

namespace DeskCalc.Batch

/-- The expressions of a text. -/
def expressions (text : List Char) : List (List Char) :=
  ((Text.lines (Text.unifyLineEnds text)).map Text.trim).filter (!·.isEmpty)

/-- The expressions of a file. -/
def load (files : Files) (path : String) : Except Fault (List String) := do
  let bytes ← (files.expandHome path >>= files.read).mapError .file
  let text ← (Text.Utf8.decode bytes).mapError .encoding
  return (expressions text.toList).map .ofList

/-- The rows of the expressions. -/
def rows (c : Calculator) (expressions : List String) : Except Fault (List Row) :=
  c.rows (expressions.map some)

/-- The number of rows with an error. -/
def failures (rows : List Row) : Nat :=
  rows.countP (·.error?.isSome)

/-- The warning about failed expressions, if there are any. -/
def warning? (rows : List Row) : Option Log.Record :=
  if failures rows = 0 then none
  else
    some ⟨.warning, .batch, s!"{failures rows} of {rows.length} expressions failed to evaluate"⟩

/-- The bytes of the rows in a file at a path: text, packed if the path asks for it. -/
def fileBytes (path : String) (rows : List Row) : Except Fault ByteArray :=
  let bytes := (csvText rows).toUTF8
  match Packing.ofPath? path with
  | none => .ok bytes
  | some packing =>
    match packing.pack? path bytes.toList with
    | some packed => .ok packed.toByteArray
    | none => .error (.missingPart .packer)

/-- Writes the rows to a file, in a directory that exists. -/
def saveFile (files : Files) (path : String) (rows : List Row) : Except Fault Files := do
  let directory := Files.parent path
  unless ← (files.isDirectory directory).mapError .file do
    throw (.missingDirectory directory)
  (files.write path (← fileBytes path rows)).mapError .file

/-- Writes the rows to where a path leads. At an address they are lost. -/
def save (files : Files) (path : String) (rows : List Row) : Except Fault Files := do
  let path ← (files.expandHome path).mapError .file
  match ← (Destination.ofText path.toList).mapError .address with
  | .path => saveFile files path rows
  | .address a =>
    (a.look files).mapError .address
    discard (fileBytes path rows)
    return files
  | .store => throw (.missingPart .store)

end DeskCalc.Batch
