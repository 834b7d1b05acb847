import DeskCalc.Proofs.Calculator.Row
import DeskCalc.Proofs.Report.Table
import DeskCalc.Proofs.Session.Expression
import DeskCalc.Proofs.Session.History
import DeskCalc.Session.Turn

/-!
# Batches and single expressions

A batch has a row for each line that is not blank, and the row tells what the expression of the line
shows when it is run on its own: the same text for its result, or the same words for its error
(`batchTurn_agrees`). What is printed is a table with a line for each expression, whose cells are
these texts (`CellsOf`), and nothing else; the only warning is about the number of failures, and the
status is one exactly if there are any.

Both ways lead through the answer of the calculator (`Answer`): `tells_of_answer` compares the run
of one expression with its row, and the batch is a list of such rows. Their table is read by
`Tells.cellsOf`; a line of a file has no line ends, so nothing but its tabs is escaped.
-/

namespace DeskCalc

namespace Session

open DeskCalc.Text Calculator

/-- What single expressions are run with: this calculator, no postfix forms, and a history that
costs a warning at most if it cannot be written. -/
structure Alone (single : Setup) (files : Files) (c : Calculator) : Prop where
  calculator : single.calculator = c
  plain : single.choices.showPostfix = false
  recorded : single.choices.history = true →
    ∀ e, (History.record files e single.choices.historyPath).fault? = none

/-- The run of an expression failed with an error of the expression. -/
def Shown.failed (shown : Shown) : Bool :=
  match shown.outcome with
  | .ok ok => !ok
  | .error _ => false

/-- What the run of an expression shows: the text of a result, or the words of an error. -/
inductive Shown.Gives (shown : Shown) : Except String String → Prop
  /-- The run succeeds, perhaps with a result that is no number. -/
  | result {text : String} (houtcome : shown.outcome = .ok true)
    (houtput : Event.outputText shown.events = text ++ "\n")
    (hfailure : Event.failureText shown.events = "") : Gives shown (.ok text)
  | error {text : String} (houtcome : shown.outcome = .ok false)
    (houtput : Event.outputText shown.events = "")
    (hfailure : Event.failureText shown.events = "Error: " ++ text ++ "\n") :
    Gives shown (.error text)

/-- A row tells what the run of its expression shows, and the table shows this text as it is. -/
inductive Tells (shown : Shown) (e : String) (row : Row) : Prop
  /-- The row has the result, and no error. -/
  | result {text : String} (hshown : shown.Gives (.ok text)) (hnone : row.error? = none)
    (hcells : row.cells = [e, text, ""]) (hcell : Table.cellText text = text.toList)
  /-- The row has the error, and no result. -/
  | error {text : String} (hshown : shown.Gives (.error text)) (hsome : row.error? = some text)
    (hcells : row.cells = [e, "", text]) (hcell : Table.cellText text = text.toList)

/-- The cells that are displayed for an expression: the expression itself, and what its run shows in
the column of results or in that of errors. -/
inductive CellsOf (shown : Shown) (e : String) : List (List Char) → Prop
  | result {text : String} (hshown : shown.Gives (.ok text)) :
    CellsOf shown e [Table.escapeTabs e, text.toList, []]
  | error {text : String} (hshown : shown.Gives (.error text)) :
    CellsOf shown e [Table.escapeTabs e, [], text.toList]

/-- The expressions of the lines of a text: what is left of them without the blanks at both ends, if
anything is. -/
def entries (text : String) : List String :=
  ((lines (unifyLineEnds text.toList)).filter (!·.all isBlank)).map fun line => .ofList (trim line)

/-- The files after a batch: the rows are saved if there are any and a path was chosen. -/
def savedFiles (setup : Setup) (files : Files) (rows : List Row) : Except Fault Files :=
  let path := setup.choices.outputPath.getD ""
  if rows.isEmpty ∨ path = "" then .ok files else Batch.save files path rows

/-- The number of expressions that fail when they are run one by one. -/
def failedRuns (single : Setup) (other : Files) (expressions : List String) : Nat :=
  expressions.countP fun e => (process single other e).failed

/-- The warnings of a batch with so many failures among so many rows. -/
def batchWarnings (failures rows : Nat) : List Log.Record :=
  if rows = 0 then [⟨.warning, .session, "No expressions found in batch file"⟩]
  else if failures = 0 then []
  else [⟨.warning, .batch, s!"{failures} of {rows} expressions failed to evaluate"⟩]

/-- The turn of a batch over these expressions agrees with their runs, one by one. -/
structure BatchAgrees (single : Setup) (other : Files) (setup : Setup) (files : Files)
    (expressions : List String) (rows : List Row) (turn : Turn) : Prop where
  /-- The rows are those of the expressions. -/
  evaluated : Batch.rows setup.calculator expressions = .ok rows
  /-- There is a row for each expression, in their order. -/
  tells : List.Forall₂ (fun e row => Tells (process single other e) e row) expressions rows
  /-- Without expressions nothing is printed. -/
  silent : expressions = [] → Event.outputText turn.events = ""
  /-- A table is all that is printed, with a line for the names of the columns and one for each
  expression. -/
  printed : expressions ≠ [] → ∃ table,
    List.Forall₂ (fun e cells => CellsOf (process single other e) e cells) expressions table ∧
      Table.IsTable (["expression".toList, "result".toList, "error".toList] :: table)
        (Event.outputText turn.events).toList
  /-- The warning counts the failed runs, and there is none without them. -/
  warned : Event.warnings turn.events =
    batchWarnings (failedRuns single other expressions) rows.length
  /-- The rows are saved at most, and without rows nothing is. -/
  saved : turn.files = (savedFiles setup files rows).toOption.getD files
  /-- The status is one if a run failed, and zero if none did. -/
  status : turn.next = .stop ((savedFiles setup files rows).map fun _ =>
    if failedRuns single other expressions = 0 then 0 else 1)

section
variable {setup single : Setup} {files other : Files} {c : Calculator} {e text path : String}
  {expressions : List String} {rows : List Row} {row : Row} {shown : Shown}
  {outcome : Except ExpressionError Float}

/-! ## One expression -/

/-- A history that can be appended to keeps no expression from being evaluated. -/
theorem alone_of_appendable {content : Option ByteArray}
    (hplain : single.choices.showPostfix = false)
    (hpath : History.pathOf other single.choices.historyPath = .ok path)
    (h : other.Appendable path content) : Alone single other single.calculator := by
  refine ⟨rfl, hplain, fun _ e => ?_⟩
  by_cases hblank : e = ""
  · rw [History.record, if_pos hblank]
    rfl
  · obtain ⟨after, hrecord, -⟩ := record_of_appendable hpath h hblank
    rw [hrecord]
    rfl

/-- A trimmed expression that is run alone shows its result, after log lines at most. -/
theorem process_of_alone (h : Alone single other c) (htrim : trim e.toList = e.toList) :
    ∃ records : List Log.Record,
      (process single other e).events = records.map .log ++ (showResult single e).1 ∧
      (process single other e).outcome = (showResult single e).2 := by
  have hevaluation : evaluation single e = showResult single e := by
    rw [evaluation, h.plain]
    rfl
  have hfault : (if single.choices.history = true then
      History.record other e single.choices.historyPath else .skipped).fault? = none := by
    split
    · next hhistory => exact h.recorded hhistory e
    · rfl
  unfold process
  dsimp only
  rw [htrim, String.ofList_toList, hfault, hevaluation]
  exact ⟨_, rfl, rfl⟩

/-- The row of an answer tells what the run of the expression shows. -/
theorem tells_of_answer (h : Alone single other c) (htrim : trim e.toList = e.toList)
    (hanswer : Answer c e outcome) : Tells (process single other e) e ⟨some e, outcome⟩ := by
  obtain ⟨records, hevents, houtcome⟩ := process_of_alone h htrim
  cases hanswer with
  | value hvalue =>
    rw [showResult, h.calculator, hvalue] at hevents houtcome
    refine .result (.result houtcome ?_ ?_) rfl rfl (cellText_resultText _) <;> rw [hevents]
    · simp [Event.outputPart]
    · simp [Event.failurePart]
  | error herror hcause =>
    rw [showResult, h.calculator, herror] at hevents houtcome
    simp only [failure, hcause] at hevents houtcome
    refine .error (.error houtcome ?_ ?_) rfl rfl (cellText_description herror hcause) <;>
      rw [hevents]
    · simp [failureEvents, Event.outputPart]
    · simp [failureEvents, Event.failurePart]
      rfl

theorem Tells.failed_eq (h : Tells shown e row) : shown.failed = row.error?.isSome := by
  cases h with
  | result hshown hnone =>
    cases hshown with
    | result houtcome => rw [Shown.failed, houtcome, hnone]; rfl
  | error hshown hsome =>
    cases hshown with
    | error houtcome => rw [Shown.failed, houtcome, hsome]; rfl

/-- The cells of a row that tells what the run shows are those that are displayed. -/
theorem Tells.cellsOf (h : Tells shown e row) (hline : ∀ c ∈ e.toList, c ≠ '\n' ∧ c ≠ '\r') :
    CellsOf shown e (row.cells.map Table.cellText) := by
  have hexpression := Table.cellText_eq_escapeTabs hline
  have hempty : Table.cellText "" = [] := rfl
  cases h with
  | result hshown _ hcells hcell =>
    rw [hcells, List.map_cons, List.map_cons, List.map_singleton, hexpression, hcell, hempty]
    exact .result hshown
  | error hshown _ hcells hcell =>
    rw [hcells, List.map_cons, List.map_cons, List.map_singleton, hexpression, hcell, hempty]
    exact .error hshown

/-! ## The rows -/

/-- The expressions of a file are those of its lines. -/
theorem map_expressions (text : String) :
    (Batch.expressions text.toList).map .ofList = entries text := by
  have hblank : (fun line => !(trim line).isEmpty) = fun line => !line.all isBlank := by
    funext line
    rw [Bool.eq_iff_iff, Bool.not_eq_true', Bool.not_eq_true', ← Bool.not_eq_true,
      ← Bool.not_eq_true, List.isEmpty_iff, trim_eq_nil_iff]
  rw [Batch.expressions, List.filter_map, entries, List.map_map]
  exact congrArg (fun p => List.map _ (List.filter p _)) hblank

theorem trim_of_mem_entries (h : e ∈ entries text) : trim e.toList = e.toList := by
  obtain ⟨line, -, rfl⟩ := List.mem_map.1 h
  rw [String.toList_ofList, trim_trim]

/-- The expression of a line has no line end. -/
theorem ne_lineEnd_of_mem_entries (h : e ∈ entries text) :
    ∀ c ∈ e.toList, c ≠ '\n' ∧ c ≠ '\r' := by
  rw [← map_expressions] at h
  obtain ⟨s, hs, rfl⟩ := List.mem_map.1 h
  intro c hc
  rw [String.toList_ofList] at hc
  have hboundary := Batch.isLineBoundary_eq_false_of_mem hs c hc
  constructor <;>
  · rintro rfl
    exact absurd hboundary (by decide)

/-- Expressions have rows, which tell what their runs show. -/
theorem exists_rows (h : Alone single other c) (hplaces : c.places = standard.places)
    (htrim : ∀ e ∈ expressions, trim e.toList = e.toList) :
    ∃ rows, Batch.rows c expressions = .ok rows ∧
      List.Forall₂ (fun e row => Tells (process single other e) e row) expressions rows := by
  rw [Batch.rows, Calculator.rows, List.mapM_map]
  refine exists_mapM_eq_ok fun e he => ?_
  obtain ⟨outcome, hanswer⟩ := exists_answer hplaces e
  exact ⟨_, hanswer.row, tells_of_answer h (htrim e he) hanswer⟩

/-- The rows with an error are those of the failed runs. -/
theorem failures_eq
    (h : List.Forall₂ (fun e row => Tells (process single other e) e row) expressions rows) :
    Batch.failures rows = failedRuns single other expressions := by
  induction h with
  | nil => rfl
  | cons htells _ ih =>
    rw [Batch.failures] at ih
    rw [Batch.failures, failedRuns, List.countP_cons, List.countP_cons, ih, htells.failed_eq]
    rfl

/-- The table of rows that tell what the runs show displays just this. -/
theorem exists_table
    (h : List.Forall₂ (fun e row => Tells (process single other e) e row) expressions rows)
    (hline : ∀ e ∈ expressions, ∀ c ∈ e.toList, c ≠ '\n' ∧ c ≠ '\r') :
    ∃ table,
      List.Forall₂ (fun e cells => CellsOf (process single other e) e cells) expressions table ∧
        Table.IsTable (["expression".toList, "result".toList, "error".toList] :: table)
          (tableText rows).toList := by
  refine ⟨_, ?_, isTable_tableText rows⟩
  rw [List.forall₂_map_right_iff]
  induction h with
  | nil => exact .nil
  | cons htells _ ih =>
    rw [List.forall_mem_cons] at hline
    exact .cons (htells.cellsOf hline.1) (ih hline.2)

/-! ## The turn -/

/-- What is logged about a file prints nothing. -/
theorem outputText_fileEvents (files : Files) (what path : String) :
    Event.outputText (fileEvents files what path) = "" := by
  rw [fileEvents]
  split <;> rfl

/-- Nor is it a warning. -/
theorem warnings_fileEvents (files : Files) (what path : String) :
    Event.warnings (fileEvents files what path) = [] := by
  rw [fileEvents]
  split <;> rfl

/-- The records about the expressions hold no warning. -/
theorem warnings_rowTraces (c : Calculator) (expressions : List String) :
    Event.warnings ((expressions.flatMap c.rowTrace).map .log) = [] := by
  refine Event.warnings_map_log fun r hr => ?_
  obtain ⟨e, -, hr⟩ := List.mem_flatMap.1 hr
  rcases level_of_mem_rowTrace hr with h | h <;> rw [h] <;> decide

/-- The warning of the rows is about the failed ones. -/
theorem warnings_warning? (hrows : rows.isEmpty = false) :
    Event.warnings ((Batch.warning? rows).toList.map .log) =
      batchWarnings (Batch.failures rows) rows.length := by
  have hlength : rows.length ≠ 0 := by simpa using hrows
  rw [Batch.warning?, batchWarnings, if_neg hlength]
  split <;> rfl

/-- Saving prints nothing and warns of nothing, and the status is that of the rows. -/
theorem saveTurn_spec (setup : Setup) (files : Files) (hrows : rows.isEmpty = false) :
    Event.outputText (saveTurn setup files rows).events = "" ∧
      Event.warnings (saveTurn setup files rows).events = [] ∧
      (saveTurn setup files rows).files = (savedFiles setup files rows).toOption.getD files ∧
      (saveTurn setup files rows).next = .stop ((savedFiles setup files rows).map fun _ =>
        if Batch.failures rows = 0 then 0 else 1) := by
  have houtput (path : String) := outputText_fileEvents files "Saving results to" path
  have hwarnings (path : String) := warnings_fileEvents files "Saving results to" path
  rw [saveTurn]
  dsimp only
  by_cases hpath : setup.choices.outputPath.getD "" = ""
  · have hsaved : savedFiles setup files rows = .ok files := if_pos (.inr hpath)
    rw [if_pos hpath, hsaved]
    exact ⟨rfl, rfl, rfl, rfl⟩
  · have hsaved : savedFiles setup files rows =
        Batch.save files (setup.choices.outputPath.getD "") rows :=
      if_neg (by simpa [hrows] using hpath)
    rw [if_neg hpath, hsaved]
    cases Batch.save files (setup.choices.outputPath.getD "") rows with
    | ok after => exact ⟨houtput _, hwarnings _, rfl, rfl⟩
    | error fault => exact ⟨houtput _, hwarnings _, rfl, rfl⟩

/-- Expressions that have rows agree with their runs. -/
theorem rowsTurn_agrees (files : Files)
    (hrows : Batch.rows setup.calculator expressions = .ok rows)
    (htells : List.Forall₂ (fun e row => Tells (process single other e) e row) expressions rows)
    (hline : ∀ e ∈ expressions, ∀ c ∈ e.toList, c ≠ '\n' ∧ c ≠ '\r') :
    BatchAgrees single other setup files expressions rows (rowsTurn setup files expressions) := by
  have hfailures := failures_eq htells
  obtain ⟨table, hcells, htable⟩ := exists_table htells hline
  rw [rowsTurn, hrows]
  dsimp only
  cases rows with
  | nil =>
    cases htells
    exact ⟨hrows, .nil, fun _ => rfl, fun hne => absurd rfl hne, rfl, rfl, rfl⟩
  | cons row rest =>
    have hsome : (row :: rest).isEmpty = false := rfl
    have htrace := warnings_rowTraces setup.calculator expressions
    have hwarning := warnings_warning? hsome
    obtain ⟨houtput, hwarnings, hfiles, hnext⟩ := saveTurn_spec setup files hsome
    rw [hfailures] at hwarning hnext
    have hne : expressions ≠ [] := by
      rintro rfl
      cases htells
    refine ⟨hrows, htells, fun hnil => absurd hnil hne, fun _ => ⟨table, hcells, ?_⟩, ?_, hfiles,
      hnext⟩
    · simpa [Event.outputPart, houtput] using htable
    · simp [Event.warning?, htrace, hwarning, hwarnings]

/-- **A batch agrees with the runs of its expressions.** A file that is text has a row for each line
that is not blank, and everything the batch shows and leaves is what these rows make of it. -/
theorem batchTurn_agrees (base : LogBase) {bytes : ByteArray}
    (hbase : setup.calculator = { standard with logBase := base })
    (halone : Alone single other setup.calculator)
    (hread : files.expandHome path >>= files.read = .ok bytes)
    (htext : Utf8.decode bytes = .ok text) :
    ∃ rows, BatchAgrees single other setup files (entries text) rows
      (batchTurn setup files path) := by
  have hload : Batch.load files path = .ok (entries text) := by
    rw [Batch.load_of_decode hread htext, map_expressions]
  have hplaces : setup.calculator.places = standard.places := by rw [hbase]
  obtain ⟨rows, hrows, htells⟩ := exists_rows halone hplaces fun e => trim_of_mem_entries
  obtain ⟨-, -, hsilent, hprinted, hwarned, hsaved, hstatus⟩ :=
    rowsTurn_agrees files hrows htells fun e => ne_lineEnd_of_mem_entries
  have houtput : Event.outputText (batchTurn setup files path).events =
      Event.outputText (rowsTurn setup files (entries text)).events := by
    rw [batchTurn, hload]
    simp [outputText_fileEvents, Event.outputPart]
  refine ⟨rows, hrows, htells, houtput ▸ hsilent, houtput ▸ hprinted, ?_, ?_, ?_⟩ <;>
    rw [batchTurn, hload]
  · simp [warnings_fileEvents, Event.warning?, hwarned]
  · exact hsaved
  · exact hstatus

end

/-- A blank line has no row. -/
theorem batchTurn_of_two_lines :
    ∃ rows, BatchAgrees ⟨.standard, .standard, 30⟩ emptyHome ⟨.standard, .standard, 30⟩
      (emptyHome.put ["home", "batch"] "1+1\n\n 5/0".toUTF8) ["1+1", "5/0"] rows
      (batchTurn ⟨.standard, .standard, 30⟩
        (emptyHome.put ["home", "batch"] "1+1\n\n 5/0".toUTF8) "~/batch") := by
  have halone : Alone ⟨.standard, .standard, 30⟩ emptyHome standard :=
    alone_of_appendable rfl rfl fresh_emptyHome.appendable
  have hentries : entries "1+1\n\n 5/0" = ["1+1", "5/0"] := by decide
  rw [← hentries]
  exact batchTurn_agrees standard.logBase rfl halone rfl (Utf8.decode_toUTF8 _)

end Session

end DeskCalc
