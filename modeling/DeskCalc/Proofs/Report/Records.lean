import DeskCalc.Proofs.Session.History

/-!
# The file of a batch, read back

The rows of a batch are saved as a text of records, and a reader that ends records only at line
feeds outside quotes finds the header in it and a record for each expression, in their order,
whatever characters the expressions hold (`csvText_read`). What the calculator answers to an
expression can be told from its record (`RecordOf`): the expression itself, a result field that is
empty exactly where there is no number, and the words of the error, if there is one.

The text is what a file holds after the rows were saved at its path, unless the path asks for a
packed file.
-/

namespace DeskCalc

open Csv

/-- The records of a text and their fields. -/
def csvRecords? (text : String) : Option (List (List String)) :=
  (read text.toList).map (·.map (·.map .ofList))

/-- The record tells what the calculator answers to the expression. -/
inductive RecordOf (c : Calculator) (e : String) : List String → Prop
  /-- A value: no words of an error, and an empty result if the value is no number. -/
  | value {x : Float} {result : String} (h : c.evaluate e = .ok x)
    (hresult : result = "" ↔ Binary64.ofFloat x = .nan) : RecordOf c e [e, result, ""]
  /-- An error: its words, and no result. -/
  | error {cause : EvaluationError} {error : ExpressionError} (h : c.evaluate e = .error cause)
    (hcause : cause.toExpressionError? = some error) : RecordOf c e [e, "", error.description]

/-- The path leads to a file that holds a text as it is: to no address or store, and to no packed
file. -/
structure Batch.HoldsText (files : Files) (path full : String) : Prop where
  expanded : files.expandHome path = .ok full
  destination : Destination.ofText full.toList = .ok .path
  unpacked : Packing.ofPath? full = none

/-! ## Fields -/

theorem layout_ne_nil (d : Decimal.Scientific) : Decimal.layout d ≠ [] := by
  unfold Decimal.layout
  dsimp only
  split
  · split
    · exact List.cons_ne_nil _ _
    · split <;> simp
  · simp

/-- A number is written with a character at least. -/
theorem shortestText_ne_empty (x : Float) : Decimal.shortestText x ≠ "" := by
  rw [Decimal.shortestText]
  split
  · decide
  · split <;> decide
  · next negative units _ =>
    rw [ne_eq, String.ofList_eq_empty_iff]
    split
    · exact List.cons_ne_nil _ _
    · split
      · exact List.cons_ne_nil _ _
      · exact layout_ne_nil _

section
variable {c : Calculator} {e : String} {row : Row} {expressions : List String} {rows : List Row}
  {files after : Files} {path full : String} {found : ByteArray}

/-- The fields of a row tell what the calculator answers. -/
theorem recordOf_of_row (h : c.row (some e) = .ok row) : RecordOf c e row.fields := by
  rw [Calculator.row, Option.getD_some] at h
  cases hevaluate : c.evaluate e with
  | ok x =>
    rw [hevaluate] at h
    cases h
    refine .value hevaluate ?_
    dsimp only [Row.result]
    split
    · next hnan => exact iff_of_true rfl hnan
    · next hnumber => exact iff_of_false (shortestText_ne_empty x) hnumber
  | error cause =>
    rw [hevaluate] at h
    dsimp only at h
    cases hcause : cause.toExpressionError? with
    | none => rw [hcause] at h; cases h
    | some error =>
      rw [hcause] at h
      cases h
      have hnan : Binary64.ofFloat Binary64.nan.toFloat = .nan := by decide +kernel
      rw [Row.fields]
      simp only [Row.result, hnan]
      exact .error hevaluate hcause

/-- The text of rows is read as the header and the fields of the rows. -/
theorem csvRecords?_csvText (rows : List Row) :
    csvRecords? (csvText rows) = some (reportHeader :: rows.map Row.fields) := by
  have hwritten : ∀ r ∈ (reportHeader :: rows.map Row.fields).map (·.map String.toList),
      r ≠ [] := by
    simp [reportHeader, Row.fields]
  rw [csvRecords?, csvText, String.toList_ofList, read_write hwritten]
  simp

/-! ## Files -/

/-- The bytes of a text are those of the file that it is saved to. -/
theorem found_of_save (h : Batch.HoldsText files path full)
    (hsave : Batch.save files path rows = .ok after) (hfound : after.content? full = some found) :
    found = (csvText rows).toUTF8 := by
  have hbytes : Batch.fileBytes full rows = .ok (csvText rows).toUTF8 := by
    rw [Batch.fileBytes, h.unpacked]
  rw [Batch.save, h.expanded] at hsave
  simp only [Except.mapError, bind, Except.bind, h.destination] at hsave
  rw [Batch.saveFile] at hsave
  obtain ⟨isDirectory, -, hsave⟩ := exists_of_bind_eq_ok hsave
  cases isDirectory with
  | false => cases hsave
  | true =>
    obtain ⟨bytes, hwritten, hsave⟩ := exists_of_bind_eq_ok hsave
    rw [hbytes] at hwritten
    cases hwritten
    exact Files.content?_of_write (mapError_eq_ok_iff.1 hsave) hfound

/-- **The file of a batch is read back** as the header and a record for each expression, which
tells what the calculator answers to it. -/
theorem csvText_read (h : c.rows (expressions.map some) = .ok rows) :
    (∃ records, csvRecords? (csvText rows) = some (["expression", "result", "error"] :: records) ∧
      List.Forall₂ (RecordOf c) expressions records) ∧
    ∀ files after path full found, Batch.HoldsText files path full →
      Batch.save files path rows = .ok after → after.content? full = some found →
      found = (csvText rows).toUTF8 := by
  refine ⟨⟨rows.map Row.fields, csvRecords?_csvText rows, ?_⟩,
    fun _ _ _ _ _ htext hsave hfound => found_of_save htext hsave hfound⟩
  rw [Calculator.rows, List.mapM_map] at h
  rw [List.forall₂_map_right_iff]
  exact (forall₂_of_mapM_eq_ok h).imp fun _ _ hrow => recordOf_of_row hrow

end

/-- Commas, quotes and line feeds of an expression are read back, also where its error quotes them,
and the file at a path in the home directory holds the text. -/
theorem csvText_of_quotes_and_commas :
    ∃ rows, Calculator.standard.rows (["1,\"2\n", "1+1"].map some) = .ok rows ∧
      (∃ records, csvRecords? (csvText rows) = some (["expression", "result", "error"] :: records) ∧
        List.Forall₂ (RecordOf .standard) ["1,\"2\n", "1+1"] records) ∧
      ∃ after found, Batch.save Session.emptyHome "~/out.csv" rows = .ok after ∧
        after.content? "/home/out.csv" = some found ∧ found = (csvText rows).toUTF8 := by
  have hsome : (Calculator.standard.rows (["1,\"2\n", "1+1"].map some)).toOption.isSome = true := by
    decide +kernel
  cases hrows : Calculator.standard.rows (["1,\"2\n", "1+1"].map some) with
  | error fault => rw [hrows] at hsome; cases hsome
  | ok rows =>
    have htext : Batch.HoldsText Session.emptyHome "~/out.csv" "/home/out.csv" :=
      ⟨rfl, rfl, by decide⟩
    obtain ⟨hrecords, hfile⟩ := csvText_read hrows
    exact ⟨rows, rfl, hrecords, _, _, rfl, rfl, hfile _ _ _ _ _ htext rfl rfl⟩

end DeskCalc
