import DeskCalc.Calculator

/-!
# Reports of many results

The rows of a batch as a file of comma-separated values and as a table. The file keeps every value
with all its digits and has an empty field where there is no value or no error; the table shows
results as they are shown elsewhere, and an empty cell in place of the value of a failed expression.

In the file a record is its fields with commas between them and a line feed after the last. A field
that holds a comma, a quote or a line feed is written between quotes, and each quote in it twice;
any other field is written as it is, also one with a carriage return. `Csv.read` takes such a text
apart again. It ends a record only at a line feed outside quotes, and refuses a quote that neither
opens, nor closes, nor is written twice. What is written for records that have fields is read as the
same records (`Csv.read_write`).

In the table every column is as wide as its widest cell, the header included, measured in
characters; every cell stands at the right end of its column; a space divides columns. Tabs and line
ends in a cell are written as escapes, so a row is one line.
-/

namespace DeskCalc

namespace Csv

/-- The character makes quotes around its field necessary. A carriage return does not, although some
writers of such files put quotes around it too. -/
def isSpecial (c : Char) : Bool :=
  c == ',' || c == '"' || c == '\n'

/-- A field between quotes. -/
def quotedField (field : List Char) : List Char :=
  '"' :: field.flatMap (fun c => if c = '"' then ['"', '"'] else [c]) ++ ['"']

/-- A field as it is written. -/
def writeField (field : List Char) : List Char :=
  if field.any isSpecial then quotedField field else field

/-- A record as it is written. -/
def writeRecord : List (List Char) → List Char
  | [] => ['\n']
  | [field] => writeField field ++ ['\n']
  | field :: rest => writeField field ++ ',' :: writeRecord rest

/-- The text of records. -/
def write (records : List (List (List Char))) : List Char :=
  records.flatMap writeRecord

/-! ## Reading -/

/-- Where in a record the reader is. -/
inductive Place
  /-- Before the first character of a field. -/
  | start
  /-- In a field without quotes. -/
  | plain
  /-- Between the quotes of a field. -/
  | inside
  /-- After a quote that closes the field, or that is the first of two. -/
  | closed
  deriving DecidableEq

/-- Reads on, with the current field and the fields before it, both in reverse. -/
def readFrom (place : Place) (field : List Char) (fields : List (List Char)) :
    List Char → Option (List (List (List Char)))
  | [] => if place = .start ∧ fields = [] then some [] else none
  | c :: rest =>
    match place, c with
    | .inside, '"' => readFrom .closed field fields rest
    | .inside, c => readFrom .inside (c :: field) fields rest
    | .closed, '"' => readFrom .inside ('"' :: field) fields rest
    | .start, '"' => readFrom .inside [] fields rest
    | .plain, '"' => none
    | _, ',' => readFrom .start [] (field.reverse :: fields) rest
    | _, '\n' => (readFrom .start [] [] rest).map ((field.reverse :: fields).reverse :: ·)
    | .closed, _ => none
    | _, c => readFrom .plain (c :: field) fields rest

/-- The records of a text. -/
def read (text : List Char) : Option (List (List (List Char))) :=
  readFrom .start [] [] text

/-! ## Reading what was written -/

theorem readFrom_inside (field acc rest : List Char) (fields : List (List Char)) :
    readFrom .inside acc fields
      (field.flatMap (fun c => if c = '"' then ['"', '"'] else [c]) ++ '"' :: rest) =
    readFrom .closed (field.reverse ++ acc) fields rest := by
  induction field generalizing acc with
  | nil => simp [readFrom]
  | cons c field ih =>
    by_cases h : c = '"'
    · subst h; simp [readFrom, ih]
    · simp [readFrom, ih, h]

theorem readFrom_plain (field : List Char) (h : field.any isSpecial = false) (acc : List Char)
    (fields : List (List Char)) (rest : List Char) :
    readFrom .plain acc fields (field ++ rest) =
      readFrom .plain (field.reverse ++ acc) fields rest := by
  induction field generalizing acc with
  | nil => simp
  | cons c field ih =>
    simp only [List.any_cons, Bool.or_eq_false_iff, isSpecial, beq_eq_false_iff_ne] at h
    simp [readFrom, ih h.2, h.1]

/-- A written field before a comma is read as the field. -/
theorem readFrom_writeField_comma (field rest : List Char) (fields : List (List Char)) :
    readFrom .start [] fields (writeField field ++ ',' :: rest) =
      readFrom .start [] (field :: fields) rest := by
  unfold writeField
  split
  · simp [quotedField, readFrom, readFrom_inside]
  · next h =>
    rw [Bool.not_eq_true] at h
    cases field with
    | nil => simp [readFrom]
    | cons c field =>
      have hc := h
      simp only [List.any_cons, Bool.or_eq_false_iff, isSpecial, beq_eq_false_iff_ne] at hc
      have := readFrom_plain field hc.2 [c] fields (',' :: rest)
      simp [readFrom, hc.1, this]

/-- A written field before a line feed is read as the last field of its record. -/
theorem readFrom_writeField_end (field rest : List Char) (fields : List (List Char)) :
    readFrom .start [] fields (writeField field ++ '\n' :: rest) =
      (readFrom .start [] [] rest).map ((field :: fields).reverse :: ·) := by
  unfold writeField
  split
  · simp [quotedField, readFrom, readFrom_inside]
  · next h =>
    rw [Bool.not_eq_true] at h
    cases field with
    | nil => simp [readFrom]
    | cons c field =>
      have hc := h
      simp only [List.any_cons, Bool.or_eq_false_iff, isSpecial, beq_eq_false_iff_ne] at hc
      have := readFrom_plain field hc.2 [c] fields ('\n' :: rest)
      simp [readFrom, hc.1, this]

/-- A written record is read as the record. -/
theorem readFrom_writeRecord {record : List (List Char)} (h : record ≠ []) (rest : List Char)
    (fields : List (List Char)) :
    readFrom .start [] fields (writeRecord record ++ rest) =
      (readFrom .start [] [] rest).map ((fields.reverse ++ record) :: ·) := by
  fun_induction writeRecord record generalizing fields with
  | case1 => contradiction
  | case2 field => simp [readFrom_writeField_end]
  | case3 field more hm ih =>
    have := ih (by intro hn; exact hm (by simpa using hn)) (field :: fields)
    simpa [readFrom_writeField_comma] using this

/-- What is written for records with fields is read as the same records. -/
theorem read_write {records : List (List (List Char))} (h : ∀ r ∈ records, r ≠ []) :
    read (write records) = some records := by
  unfold read
  induction records with
  | nil => simp [write, readFrom]
  | cons r records ih =>
    have hr := h r (by simp)
    have ih := ih fun r hr => h r (by simp [hr])
    rw [write, List.flatMap_cons, readFrom_writeRecord hr]
    rw [write] at ih
    simp [ih]

end Csv

namespace Table

/-- A character of a cell. -/
def escape (c : Char) : List Char :=
  if c = '\t' then ['\\', 't']
  else if c = '\n' then ['\\', 'n']
  else if c = '\r' then ['\\', 'r']
  else [c]

/-- The text of a cell. -/
def cellText (cell : String) : List Char :=
  cell.toList.flatMap escape

/-- The cell at the right end of `width` characters. -/
def alignRight (width : Nat) (cell : List Char) : List Char :=
  List.replicate (width - cell.length) ' ' ++ cell

/-- The widths of the columns. -/
def widths (rows : List (List (List Char))) : List Nat :=
  match rows.map (·.map List.length) with
  | [] => []
  | first :: rest => rest.foldl (List.zipWith max) first

/-- The line of a row. -/
def line (widths : List Nat) (row : List (List Char)) : List Char :=
  [' '].intercalate (List.zipWith alignRight widths row)

/-- The lines of a table, each with its line feed. -/
def render (header : List String) (rows : List (List String)) : String :=
  let cells := (header :: rows).map (·.map cellText)
  .ofList (cells.flatMap fun row => line (widths cells) row ++ ['\n'])

end Table

/-! ## Rows -/

/-- The names of the columns. -/
def reportHeader : List String := ["expression", "result", "error"]

namespace Row

/-- The fields of the row in a file. -/
def fields (r : Row) : List String :=
  let result :=
    match Binary64.ofFloat r.result with
    | .nan => ""
    | _ => Decimal.shortestText r.result
  [r.expression.getD "", result, r.error?.getD ""]

/-- The cells of the row in a table. -/
def cells (r : Row) : List String :=
  let result :=
    match r.outcome with
    | .ok value => resultText value
    | .error _ => ""
  [r.expression.getD "", result, r.error?.getD ""]

end Row

/-- The text of a file of rows. -/
def csvText (rows : List Row) : String :=
  .ofList (Csv.write ((reportHeader :: rows.map Row.fields).map (·.map String.toList)))

/-- The table of rows. -/
def tableText (rows : List Row) : String :=
  Table.render reportHeader (rows.map Row.cells)

end DeskCalc
