/-!
# Log

What the program says about its own steps. A record has a level and a source; a threshold, chosen by
name on the command line, lets through the records of its own level and above.
-/

namespace DeskCalc.Log

/-- The levels of records. -/
inductive Level
  | debug | info | warning
  deriving DecidableEq

namespace Level

/-- The rank of the level. -/
def rank : Level → Nat
  | debug => 10
  | info => 20
  | warning => 30

/-- The name of the level in a line. -/
def name : Level → String
  | debug => "DEBUG"
  | info => "INFO"
  | warning => "WARNING"

end Level

/-- The parts of the program that log. -/
inductive Source
  | tokens | form | value | calculator | batch | history | config | session
  deriving DecidableEq

/-- The name of the source in a line. -/
def Source.name : Source → String
  | tokens => "core.token_system"
  | form => "core.parser"
  | value => "core.rpn_evaluator"
  | calculator => "calculator.evaluator"
  | batch => "data.data_loader"
  | history => "utils.history"
  | config => "config.config"
  | session => "main"

/-- One thing that was logged. -/
structure Record where
  level : Level
  source : Source
  message : String

/-- The line of a record, after the time stamp `time`. -/
def Record.line (time : String) (r : Record) : String :=
  s!"{time} - {r.source.name} - {r.level.name} - {r.message}"

/-- The record without a time stamp. -/
def Record.brief (r : Record) : String :=
  s!"{r.level.name} {r.source.name}: {r.message}"

/-! ## Thresholds -/

/-- The ranks that a name can choose. -/
def ranks : List (String × Nat) :=
  [("CRITICAL", 50), ("FATAL", 50), ("ERROR", 40), ("WARNING", 30), ("WARN", 30), ("INFO", 20),
   ("DEBUG", 10), ("NOTSET", 0)]

/-- What a reserved name stands for instead of a rank. -/
inductive Reserved
  /-- The layout of a line. -/
  | layout
  /-- The layouts in each style of placeholders. -/
  | styles
  deriving DecidableEq

/-- The reserved names. -/
def reserved : List (String × Reserved) :=
  [("BASIC_FORMAT", .layout), ("_STYLES", .styles)]

/-- The layout of a line. -/
def layout : String := "%(levelname)s:%(name)s:%(message)s"

/-- The styles of placeholders: the sign of the style, its name and its layout. -/
def styles : List (String × String × String) :=
  [("%", "PercentStyle", layout),
   ("\x7b", "StrFormatStyle", "\x7blevelname\x7d:\x7bname\x7d:\x7bmessage\x7d"),
   ("$", "StringTemplateStyle", "$\x7blevelname\x7d:$\x7bname\x7d:$\x7bmessage\x7d")]

/-- A style in words. -/
def styleText (sign name layout : String) : String :=
  s!"'{sign}': (<class 'logging.{name}'>, '{layout}')"

/-- Why a reserved name is no threshold, in words. -/
def Reserved.message : Reserved → String
  | .layout => s!"Unknown level: '{Log.layout}'"
  | .styles =>
    let shown := ", ".intercalate (Log.styles.map fun (sign, name, l) => styleText sign name l)
    "Level not an integer or a valid string: \x7b" ++ shown ++ "\x7d"

/-- The capital letters of a character, as far as they are capitals of ASCII. Besides the small
letters of ASCII the dotless i, the long s and two ligatures of s and t have such capitals that
occur in a name. -/
def capitals (c : Char) : List Char :=
  if c = 'ı' then ['I']
  else if c = 'ſ' then ['S']
  else if c = 'ﬅ' ∨ c = 'ﬆ' then ['S', 'T']
  else [c.toUpper]

/-- The least rank that is let through, whatever the case of the name. A name that is not known
chooses the rank of warnings; a reserved one chooses nothing. -/
def threshold (name : String) : Except Reserved Nat :=
  let name := String.ofList (name.toList.flatMap capitals)
  match reserved.lookup name with
  | some r => .error r
  | none => .ok ((ranks.lookup name).getD Level.warning.rank)

end DeskCalc.Log
