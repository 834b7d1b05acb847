import DeskCalc.CommandLine.Role
import DeskCalc.Config

/-!
# Reading the command line

The choices that the flags of a command line make, and the words that are left over. First every
word before two dashes gets its role (`withRole`); then the roles are read from left to right
(`readRoles`), and a setting without a value of its own takes the next word, which has to be a plain
one. Words that start with a dash and are no flag are left over, so that expressions need no dashes
before them, and so are letters behind switches that are no flags, under the rules that allow them.

A setting that is given no value after all, as its dashes were dropped, is as good as not given
where it names a file. The base of `log` and the level of the log are wanting then, which is found
out when they are needed.
-/

namespace DeskCalc.CommandLine

/-- How expressions come in. -/
inductive Mode
  /-- One line is asked for. -/
  | single
  /-- Lines are asked for until told to stop. -/
  | multiple
  /-- The command line has the expression. -/
  | argument
  deriving DecidableEq

/-- What the flags choose. -/
structure Choices where
  mode : Option Mode
  batchFile : Option String
  outputPath : Option String
  historyPath : Option String
  /-- Expressions are recorded. -/
  history : Bool
  /-- The base of `log`, unless it is wanting. -/
  logBase : Option LogBase
  showPostfix : Bool
  /-- The name of the least level of log lines, unless it is wanting. -/
  logLevel : Option String

/-- What is chosen without flags. -/
def Choices.standard : Choices where
  mode := none
  batchFile := none
  outputPath := none
  historyPath := Config.standard.history.historyPath
  history := Config.standard.history.enabled
  logBase := some (.ofNameD Config.standard.calculator.logBase)
  showPostfix := false
  logLevel := some Config.standard.log.level

/-- Why reading stops early. -/
inductive Stop
  /-- The command line is not in order. -/
  | usage
  /-- Help was asked for. -/
  | help
  deriving DecidableEq

/-- The exit status of a program that stops so. -/
def Stop.status : Stop → Nat
  | usage => 2
  | help => 0

/-! ## Reading -/

/-- The choices so far. -/
structure Reading where
  choices : Choices
  /-- The flag that chose where expressions come from. No second one may differ from it. -/
  source : Option Flag
  /-- The words that are neither flags nor values. -/
  leftover : List String

namespace Reading

/-- Before the first word. -/
def start : Reading := ⟨.standard, none, []⟩

/-- Makes a choice of where expressions come from. -/
def choose (r : Reading) (f : Flag) (choices : Choices) : Except Stop Reading :=
  match r.source with
  | some g => if g = f then .ok { r with choices } else .error .usage
  | none => .ok { r with choices, source := some f }

/-- Takes a switch. -/
def takeSwitch (r : Reading) : Switch → Except Stop Reading
  | .help => .error .help
  | .single => r.choose (.switch .single) { r.choices with mode := some .single }
  | .multiple => r.choose (.switch .multiple) { r.choices with mode := some .multiple }
  | .argument => r.choose (.switch .argument) { r.choices with mode := some .argument }
  | .noHistory => .ok { r with choices := { r.choices with history := false } }
  | .showPostfix => .ok { r with choices := { r.choices with showPostfix := true } }

/-- Takes a setting with its value. -/
def takeSetting (r : Reading) (s : Setting) (value : Value) : Except Stop Reading :=
  match s with
  | .batchFile => r.choose (.setting .batchFile) { r.choices with batchFile := value.text? }
  | .outputPath => .ok { r with choices := { r.choices with outputPath := value.text? } }
  | .historyPath => .ok { r with choices := { r.choices with historyPath := value.text? } }
  | .logLevel => .ok { r with choices := { r.choices with logLevel := value.text? } }
  | .logBase =>
    match value with
    | .absent => .ok { r with choices := { r.choices with logBase := none } }
    | .text name =>
      match LogBase.ofName? name with
      | some logBase => .ok { r with choices := { r.choices with logBase := some logBase } }
      | none => .error .usage

/-- Leaves words over. -/
def leave (r : Reading) (words : List String) : Reading :=
  { r with leftover := r.leftover ++ words }

/-- Takes the switches of a use. -/
def takeSwitches (r : Reading) (u : Use) : Except Stop Reading :=
  u.switches.foldlM takeSwitch r

end Reading

/-- Reads words with their roles. -/
def readRoles (r : Reading) : List (String × Role) → Except Stop Reading
  | [] => .ok r
  | (word, .plain) :: rest | (word, .unknown) :: rest => readRoles (r.leave [word]) rest
  | (_, .misused) :: _ => .error .usage
  | (_, .flags u) :: rest =>
    match u.tail with
    | .nothing => do readRoles (← r.takeSwitches u) rest
    | .letters word => do readRoles ((← r.takeSwitches u).leave [word]) rest
    | .setting s (some value) => do
      readRoles (← (← r.takeSwitches u).takeSetting s value) rest
    | .setting s none =>
      match rest with
      | (value, .plain) :: rest => do
        readRoles (← (← r.takeSwitches u).takeSetting s (.text value)) rest
      | _ => .error .usage

/-- A word with its role. An ambiguous one makes the command line unusable, whatever else is on
it. -/
def withRole (rules : Rules) (word : String) : Except Stop (String × Role) :=
  match role? rules word with
  | some role => .ok (word, role)
  | none => .error .usage

/-- Reads a command line. -/
def read (rules : Rules) (arguments : List String) : Except Stop Reading := do
  let roles ← (arguments.takeWhile (· ≠ "--")).mapM (withRole rules)
  let reading ← readRoles .start roles
  return reading.leave ((arguments.dropWhile (· ≠ "--")).drop 1)

end DeskCalc.CommandLine
