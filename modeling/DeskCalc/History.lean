import DeskCalc.Fault
import DeskCalc.Files.Path

/-!
# History

Expressions are recorded in a file, one a line, in the order in which they were given. A record is
added at the end of the file and nothing else is touched. A path that cannot be written costs a
warning and no more.
-/

namespace DeskCalc.History

/-- What became of a record. -/
inductive Outcome
  /-- There was nothing to record. -/
  | skipped
  /-- The files with the record. -/
  | written (files : Files)
  /-- The path could not be written, and nothing changed. -/
  | failed (e : FileError)

/-- The file that is meant by a path, the file of the settings by none. -/
def pathOf (files : Files) (path : Option String) : Except FileError String :=
  let path := path.getD ""
  files.expandHome (if path = "" then Config.standard.history.historyPath.getD "" else path)

/-- The bytes that record an expression. -/
def entry (expression : String) : ByteArray :=
  (expression ++ "\n").toUTF8

/-- Records an expression. -/
def record (files : Files) (expression : String) (path : Option String) : Outcome :=
  if expression = "" then .skipped
  else
    match pathOf files path >>= (files.append · (entry expression)) with
    | .ok files => .written files
    | .error e => .failed e

namespace Outcome

/-- The record was added. -/
def isWritten : Outcome → Bool
  | written _ => true
  | _ => false

/-- The files afterwards. -/
def files (before : Files) : Outcome → Files
  | written after => after
  | _ => before

/-- The warning about a path that cannot be written. -/
def warning? : Outcome → Option Log.Record
  | failed e =>
    if e.isSystem then
      some ⟨.warning, .history, s!"Failed to write history to {e.path}: {e.message}"⟩
    else none
  | _ => none

/-- The fault that is no matter of the file system, so that no warning will do. -/
def fault? : Outcome → Option Fault
  | failed e => if e.isSystem then none else some (.file e)
  | _ => none

end Outcome

end DeskCalc.History
