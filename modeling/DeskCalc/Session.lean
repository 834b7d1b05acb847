import DeskCalc.Session.Turn

/-!
# Sessions

What the program does with a command line, the lines it is given and the files it finds. A session
is a step function: `start` reads the command line and takes the first turn, and `answer` says what
a line leads to. `run` answers the questions from a list of lines, after which the input ends; an
end of input ends the session in good order whatever was asked.

The command line is read under any rules for what is attached to a flag. Where none are given, it is
read under the first ones.
-/

namespace DeskCalc.Session

/-- The word for a mode. -/
def modeName : CommandLine.Mode → String
  | .single => "single"
  | .multiple => "multiple"
  | .argument => "argument"

/-- The first turn of a session that is no batch. -/
def modeTurn (setup : Setup) (files : Files) (expression : String) : Turn :=
  let mode := setup.choices.mode.getD (if expression = "" then .single else .argument)
  let turn : Turn :=
    match mode with
    | .multiple => ⟨[], files, .ask .expression⟩
    | .single => ⟨[], files, .ask .only⟩
    | .argument =>
      if expression = "" then ⟨[], files, .ask .only⟩ else showOnly setup files expression
  { turn with events := .log ⟨.debug, .session, s!"Mode: {modeName mode}"⟩ :: turn.events }

/-- The text of a setting that is wanting. -/
def nothing : String := "[]"

/-- The first turn of a session. Without a base of `log` there is no calculator to go on with. -/
def firstTurn (setup : Setup) (files : Files) (expression : String) : Turn :=
  let batchFile := setup.choices.batchFile.getD ""
  let turn :=
    if setup.choices.logBase.isNone then
      ⟨[], files, .stop (.error (.unsupportedLogBase nothing))⟩
    else if batchFile = "" then modeTurn setup files expression
    else batchTurn setup files batchFile
  let checked : Event :=
    .log ⟨.debug, .config, "Configuration validated successfully!"⟩
  { turn with events := checked :: turn.events }

/-- The least rank of log lines that are shown. -/
def threshold (choices : CommandLine.Choices) : Except Fault Nat :=
  match choices.logLevel with
  | some level => (Log.threshold level).mapError .reservedLevel
  | none => .error .noLevel

/-- Reads the command line and takes the first turn. -/
def start (rules : CommandLine.Rules) (arguments : List String) (files : Files) :
    Except CommandLine.Stop (Setup × Turn) := do
  let choices := (← CommandLine.read rules arguments).choices
  let logBase := choices.logBase.getD Calculator.standard.logBase
  let calculator := { Calculator.standard with logBase }
  match threshold choices with
  | .error fault => return (⟨choices, calculator, 0⟩, ⟨[], files, .stop (.error fault)⟩)
  | .ok threshold =>
    let setup := ⟨choices, calculator, threshold⟩
    return (setup, firstTurn setup files (CommandLine.expression arguments))

/-- How a session ended. -/
structure Ending where
  events : List Event
  files : Files
  exit : Except Fault Nat

/-- How a session ends when the input ends after a turn: in good order, whatever was asked. -/
def Turn.hangUp (t : Turn) : Ending :=
  match t.next with
  | .stop exit => ⟨t.events, t.files, exit⟩
  | .ask q => ⟨t.events ++ [q.prompt], t.files, .ok 0⟩

/-- Goes on after a turn with the lines that are left. -/
def converse (setup : Setup) (t : Turn) : List String → Ending
  | [] => t.hangUp
  | line :: rest =>
    match t.next with
    | .stop _ => t.hangUp
    | .ask q =>
      let ending := converse setup (answer setup t.files q line) rest
      { ending with events := t.events ++ q.prompt :: ending.events }

/-- A whole session. -/
def run (arguments lines : List String) (files : Files) (rules : CommandLine.Rules := .early) :
    Except CommandLine.Stop (Setup × Ending) := do
  let (setup, turn) ← start rules arguments files
  return (setup, converse setup turn lines)

end DeskCalc.Session
