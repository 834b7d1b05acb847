import DeskCalc.Batch
import DeskCalc.Calculator
import DeskCalc.CommandLine.Reading
import DeskCalc.History

/-!
# Turns

A session goes on in turns. Each has the events it shows, the files it leaves, and either a question
that the next line of the input answers, or the end of the session. Events are shown in order: text
for the output, text about failures, and records of the log. Failures and log lines share one
channel.

An expression is recorded before it is evaluated, so failed ones are in the history too. Its postfix
form, where that is asked for, is shown before its result, and stands also where the form has no
value.

In the dialog a blank line in place of an expression is asked for again; a command ends the dialog;
any other line is an expression, after which the dialog asks whether to go on.

A batch takes one turn: load the file, evaluate its expressions, show the table, save the rows. The
status tells whether an expression failed. Without expressions there is nothing to show or to save.
-/

namespace DeskCalc

/-- One thing that the program shows. -/
inductive Event
  /-- Text for the output. -/
  | output (text : String)
  /-- Text about a failure. -/
  | report (text : String)
  | log (r : Log.Record)

namespace Event

/-- What the event adds to the output. -/
def outputPart : Event → String
  | output text => text
  | _ => ""

/-- What the event adds to the text about failures and the log, which shows a record only if the
threshold lets it through. -/
def reportPart (threshold : Nat) (time : String) : Event → String
  | output _ => ""
  | report text => text
  | log r => if threshold ≤ r.level.rank then r.line time ++ "\n" else ""

/-- The text for the output. -/
def outputText (events : List Event) : String :=
  .join (events.map outputPart)

/-- The text about failures and the log. -/
def reportText (threshold : Nat) (time : String) (events : List Event) : String :=
  .join (events.map (reportPart threshold time))

end Event

namespace Session

/-- What a session keeps from its command line. -/
structure Setup where
  choices : CommandLine.Choices
  calculator : Calculator
  /-- The least rank of log lines that are shown. -/
  threshold : Nat

/-- What the next line is for. -/
inductive Question
  /-- The only expression. -/
  | only
  /-- An expression of several. -/
  | expression
  /-- Whether to go on. -/
  | goOn
  deriving DecidableEq

/-- What comes after a turn. -/
inductive Next
  | ask (q : Question)
  /-- The session ends with a status, or with a fault that nothing handles. -/
  | stop (exit : Except Fault Nat)

/-- What a step shows, leaves and leads to. -/
structure Turn where
  events : List Event
  files : Files
  next : Next

/-- The texts of the dialog. -/
def texts : DialogConfig := Config.standard.dialog

/-- The text that asks the question. -/
def Question.prompt : Question → Event
  | only | expression => .output texts.prompt
  | goOn => .output texts.continuePrompt

/-! ## One expression -/

/-- What an expression leads to, and whether it has a value. -/
structure Shown where
  events : List Event
  files : Files
  outcome : Except Fault Bool

/-- The events of a failed evaluation. -/
def failureEvents (expression : String) (e : ExpressionError) : List Event :=
  [.log ⟨.debug, .session, s!"{e.errorClass.name} for {Text.quoted expression}"⟩,
   .report s!"Error: {e.description}\n"]

/-- The events that a cause of failure leads to, and what the program makes of it. -/
def failure (expression : String) (cause : EvaluationError) : List Event × Except Fault Bool :=
  match cause.toExpressionError? with
  | some e => (failureEvents expression e, .ok false)
  | none => ([], .error cause.toFault)

/-- Evaluates an expression and shows its result. -/
def showResult (setup : Setup) (expression : String) : List Event × Except Fault Bool :=
  let trace := (setup.calculator.trace expression).map .log
  match setup.calculator.evaluate expression with
  | .ok value => (trace ++ [.output (resultText value ++ "\n")], .ok true)
  | .error cause =>
    let (events, outcome) := failure expression cause
    (trace ++ events, outcome)

/-- Shows the postfix form of an expression, and its result after that. -/
def showForm (setup : Setup) (expression : String) : List Event × Except Fault Bool :=
  let trace := (setup.calculator.formTrace expression).map .log
  match setup.calculator.postfixForm expression with
  | .ok form =>
    let (events, outcome) := showResult setup expression
    (trace ++ .output s!"Postfix: {Postfix.text form}\n" :: events, outcome)
  | .error cause =>
    let (events, outcome) := failure expression cause
    (trace ++ events, outcome)

/-- Evaluates a trimmed expression and shows what was asked for. -/
def evaluation (setup : Setup) (expression : String) : List Event × Except Fault Bool :=
  if setup.choices.showPostfix then showForm setup expression else showResult setup expression

/-- Records an expression, evaluates it and shows the result. -/
def process (setup : Setup) (files : Files) (expression : String) : Shown :=
  let expression := String.ofList (Text.trim expression.toList)
  let recorded :=
    if setup.choices.history then History.record files expression setup.choices.historyPath
    else .skipped
  match recorded.fault? with
  | some fault => ⟨[], files, .error fault⟩
  | none =>
    let (events, outcome) := evaluation setup expression
    ⟨recorded.warning?.toList.map .log ++ events, recorded.files files, outcome⟩

/-- Ends the session after its only expression. -/
def showOnly (setup : Setup) (files : Files) (expression : String) : Turn :=
  let shown := process setup files expression
  ⟨shown.events, shown.files, .stop (shown.outcome.map fun ok => if ok then 0 else 1)⟩

/-! ## The dialog -/

/-- The text is one of the commands that end the dialog, in any case of its letters. -/
def isExit (text : List Char) : Bool :=
  texts.exitCommands.contains (.ofList (text.map Char.toLower))

/-- What a line leads to as the answer to a question. -/
def answer (setup : Setup) (files : Files) (q : Question) (line : String) : Turn :=
  let text := Text.trim line.toList
  match q with
  | .only => showOnly setup files line
  | .expression =>
    if text = [] then ⟨[], files, .ask .expression⟩
    else if isExit text then ⟨[], files, .stop (.ok 0)⟩
    else
      let shown := process setup files (.ofList text)
      match shown.outcome with
      | .ok _ => ⟨shown.events ++ [.output (texts.separator ++ "\n")], shown.files, .ask .goOn⟩
      | .error fault => ⟨shown.events, shown.files, .stop (.error fault)⟩
  | .goOn =>
    if text = ['n'] ∨ text = ['N'] then ⟨[], files, .stop (.ok 0)⟩
    else ⟨[], files, .ask .expression⟩

/-! ## Batches -/

/-- What is logged before a file is opened, unless its path cannot be written out. -/
def fileEvents (files : Files) (what path : String) : List Event :=
  match files.expandHome path with
  | .ok shown => [.log ⟨.info, .batch, s!"{what} {shown}"⟩]
  | .error _ => []

/-- The events of saving rows, the files then, and the status. -/
def saveTurn (setup : Setup) (files : Files) (rows : List Row) : Turn :=
  let status := if Batch.failures rows = 0 then 0 else 1
  let path := setup.choices.outputPath.getD ""
  if path = "" then ⟨[], files, .stop (.ok status)⟩
  else
    let events := fileEvents files "Saving results to" path
    match Batch.save files path rows with
    | .ok files => ⟨events, files, .stop (.ok status)⟩
    | .error fault => ⟨events, files, .stop (.error fault)⟩

/-- Evaluates the expressions of a batch and shows the table of results. -/
def rowsTurn (setup : Setup) (files : Files) (expressions : List String) : Turn :=
  let trace := (expressions.flatMap setup.calculator.rowTrace).map Event.log
  match Batch.rows setup.calculator expressions with
  | .error fault => ⟨trace, files, .stop (.error fault)⟩
  | .ok rows =>
    let events := trace ++ (Batch.warning? rows).toList.map .log
    if rows.isEmpty then
      ⟨events ++ [.log ⟨.warning, .session, "No expressions found in batch file"⟩], files,
        .stop (.ok 0)⟩
    else
      let saved := saveTurn setup files rows
      ⟨events ++ .output (tableText rows) :: saved.events, saved.files, saved.next⟩

/-- Evaluates the lines of a file. -/
def batchTurn (setup : Setup) (files : Files) (path : String) : Turn :=
  let opening := fileEvents files "Loading expressions from" path
  match Batch.load files path with
  | .error fault => ⟨opening, files, .stop (.error fault)⟩
  | .ok expressions =>
    let turn := rowsTurn setup files expressions
    let loaded : Event :=
      .log ⟨.info, .batch, s!"Loaded {expressions.length} expressions"⟩
    { turn with events := opening ++ loaded :: turn.events }

end Session

end DeskCalc
