import DeskCalc.Operator

/-!
# Configuration

The fixed settings of the calculator, its history, its dialog and its log, and the check that they
make sense. The checks are made in order, and the first one that fails is reported.
-/

namespace DeskCalc

/-- How results are computed and shown. -/
structure CalculatorConfig where
  /-- Places that results are rounded to. -/
  roundDecimals : Int
  /-- Places that results are shown with. -/
  maxFractionDigits : Int
  /-- The text that chooses the base of `log`. -/
  logBase : String
  /-- Parentheses are checked before anything else. -/
  precheckParentheses : Bool

/-- Where expressions are recorded. -/
structure HistoryConfig where
  /-- Expressions are recorded. -/
  enabled : Bool
  /-- The file that they are recorded in. -/
  historyPath : Option String

/-- The texts of the dialog. -/
structure DialogConfig where
  /-- Asks for an expression. -/
  prompt : String
  /-- Asks whether to go on. -/
  continuePrompt : String
  /-- Stands after each answer. -/
  separator : String
  /-- What ends the dialog, in small letters. -/
  exitCommands : List String

/-- What is logged, and how. -/
structure LogConfig where
  /-- The least level that is shown. -/
  level : String
  /-- The layout of a line. -/
  format : String

/-- All settings. -/
structure Config where
  calculator : CalculatorConfig
  history : HistoryConfig
  dialog : DialogConfig
  log : LogConfig

namespace Config

/-- The settings of the program. -/
def standard : Config where
  calculator := ⟨10, 10, "e", true⟩
  history := ⟨true, some "~/.calchistory"⟩
  dialog :=
    ⟨"Enter expression: ", "Continue? (y/n): ", .ofList (List.replicate 24 '-'),
      ["exit", "quit"]⟩
  log := ⟨"WARNING", "%(asctime)s - %(name)s - %(levelname)s - %(message)s"⟩

/-- The levels that the settings may choose. -/
def levels : List String := ["DEBUG", "INFO", "WARNING", "ERROR", "CRITICAL"]

/-- What is wrong with settings. -/
inductive Fault
  | negativeRounding
  | negativeFraction
  | unknownLogBase
  | noHistoryPath
  | unknownLevel
  deriving DecidableEq

/-- The fault in words. For an unknown level there are none. -/
def Fault.message : Fault → String
  | negativeRounding => "round_decimals 不能为负"
  | negativeFraction => "max_fraction_digits 不能为负"
  | unknownLogBase => "log_base 只能是 'e' 或 '10'"
  | noHistoryPath => "history_path 不能为空"
  | unknownLevel => ""

/-- The first fault of the settings. -/
def fault? (c : Config) : Option Fault :=
  if c.calculator.roundDecimals < 0 then some .negativeRounding
  else if c.calculator.maxFractionDigits < 0 then some .negativeFraction
  else if (LogBase.ofName? c.calculator.logBase).isNone then some .unknownLogBase
  else if c.history.historyPath.getD "" = "" then some .noHistoryPath
  else if c.log.level ∉ levels then some .unknownLevel
  else none

/-- The settings of the program have no fault. -/
theorem fault?_standard : standard.fault? = none := by decide

end Config

end DeskCalc
