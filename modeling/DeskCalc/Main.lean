import DeskCalc.Session

/-!
# The program

The outer layer. It looks at the files that the command line speaks of, shows the events of each
turn, writes back the files that a turn changed, and fetches the lines that are asked for. All else
is decided by the session. The stamp of a log line is the time since the start of the machine's
clock.
-/

namespace DeskCalc.Program

open Session

/-- What the command line looks like. -/
def usage : String :=
  "usage: deskcalc [-h] [-s | -m | -a | -f FILE] [--output_path FILE] [--history_path FILE]\n" ++
  "                [--no_history] [--log_base e|10] [--show_postfix] [--log_level LEVEL]\n" ++
  "                [expression ...]\n"

/-- The path of a location. -/
def pathText (l : Location) : String :=
  "/" ++ "/".intercalate l

/-- What is at a location now. -/
def nodeAt (l : Location) : IO (Option Node) := do
  let path := (← IO.currentDir) / pathText l
  if ← path.isDir then return some .directory
  if ← path.pathExists then return some (.file (← IO.FS.readBinFile path))
  return none

/-- Adds what is at the locations along a path. -/
def look (files : Files) (path : String) : IO Files := do
  let mut nodes := files.nodes
  let mut location := files.origin path
  for name in Files.components path do
    location :=
      if name = "" ∨ name = "." then location
      else if name = ".." then location.dropLast
      else location ++ [name]
    if let some node ← nodeAt location then
      nodes := (location, node) :: nodes
  return { files with nodes }

/-- The files that the choices speak of. -/
def filesFor (choices : CommandLine.Choices) : IO Files := do
  let directory := (← IO.currentDir).toString
  let home := (← IO.getEnv "HOME").getD directory
  let origin := (Files.components directory).filter (· ≠ "")
  let files : Files := ⟨[], origin, home, []⟩
  let given := [choices.batchFile, choices.outputPath].filterMap id
  let paths := History.pathOf files choices.historyPath :: given.map files.expandHome
  (paths.filterMap (·.toOption)).foldlM look (← look files directory)

/-- Writes the files that differ. -/
def writeBack (before after : Files) : IO Unit := do
  for (location, node) in after.nodes do
    if let .file content := node then
      let same :=
        match before.node? location with
        | some (.file old) => old.toList == content.toList
        | _ => false
      unless same do
        IO.FS.writeBinFile ((← IO.currentDir) / pathText location) content

/-- Shows events. -/
def display (threshold : Nat) (events : List Event) : IO Unit := do
  let output ← IO.getStdout
  let report ← IO.getStderr
  let time := s!"{← IO.monoMsNow} ms"
  for event in events do
    output.putStr (Event.outputText [event])
    report.putStr (Event.reportText threshold time [event])
  output.flush

/-- The status of a session that ended. -/
def status (exit : Except Fault Nat) : IO UInt32 := do
  match exit with
  | .ok n => return .ofNat n
  | .error fault =>
    (← IO.getStderr).putStr s!"{fault.name}: {fault.message}\n"
    return 1

/-- Goes on after a turn. -/
partial def loop (setup : Setup) (before : Files) (turn : Turn) : IO UInt32 := do
  display setup.threshold turn.events
  writeBack before turn.files
  match turn.next with
  | .stop exit => status exit
  | .ask question =>
    display setup.threshold [question.prompt]
    let line ← (← IO.getStdin).getLine
    if line.isEmpty then return 0
    let text := if line.endsWith "\n" then (line.dropEnd 1).toString else line
    loop setup turn.files (answer setup turn.files question text)

/-- Runs a session on the command line, the input and the files. -/
def run (rules : CommandLine.Rules) (arguments : List String) : IO UInt32 := do
  match CommandLine.read rules arguments with
  | .error stop =>
    if stop = .help then IO.print usage else IO.eprint usage
    return .ofNat stop.status
  | .ok reading =>
    let files ← filesFor reading.choices
    match start rules arguments files with
    | .error stop => return .ofNat stop.status
    | .ok (setup, turn) => loop setup files turn

end DeskCalc.Program

/-- The desk calculator. -/
def main (arguments : List String) : IO UInt32 :=
  DeskCalc.Program.run .early arguments
