import DeskCalc.Arithmetic
import DeskCalc.Config
import DeskCalc.Decimal
import DeskCalc.Error
import DeskCalc.Files.Address
import DeskCalc.Log
import DeskCalc.Text.Utf8

/-!
# Faults

All that can end an operation without an answer: the error of an expression, and what lies outside
expressions, a number of places that is too large, a name missing in a table, settings, files. Each
stage has narrower causes; they meet here, where every one has a name and a text.
-/

namespace DeskCalc

/-- Why results cannot be written, whatever the path. -/
inductive MissingPart
  /-- What reaches a store at an address. -/
  | store
  /-- What packs a file with this ending. -/
  | packer
  deriving DecidableEq

/-- The name of the missing part. -/
def MissingPart.name : MissingPart → String
  | store => "fsspec"
  | packer => "zstandard"

/-- Why there is no answer. -/
inductive Fault
  | expression (e : ExpressionError)
  /-- A number cannot be rounded to so many places. -/
  | rounding (cause : Binary64.ScaleError)
  /-- A number cannot be shown with so many places. -/
  | places (cause : Decimal.PlacesError)
  /-- A name that a table does not list. -/
  | unlisted (name : String)
  /-- An operation on two numbers that was named as a function of one. -/
  | secondOperandMissing (op : Operator)
  | unsupportedLogBase (text : String)
  | file (e : FileError)
  /-- A file that is no text. -/
  | encoding (f : Text.Utf8.Fault)
  /-- There is no directory to write results into. -/
  | missingDirectory (path : String)
  | address (e : AddressError)
  | missingPart (part : MissingPart)
  | config (f : Config.Fault)
  /-- A threshold that is no rank. -/
  | reservedLevel (r : Log.Reserved)
  /-- A threshold was asked for and not given. -/
  | noLevel

namespace Fault

/-- The error of an expression, if it is one. -/
def expression? : Fault → Option ExpressionError
  | expression e => some e
  | _ => none

/-- The name of the fault. -/
def name : Fault → String
  | expression e => e.errorClass.name
  | rounding _ | places .large | places .huge => "OverflowError"
  | places .negative | unsupportedLogBase _ | reservedLevel .layout => "ValueError"
  | unlisted _ => "KeyError"
  | secondOperandMissing _ | reservedLevel .styles => "TypeError"
  | file e => e.name
  | encoding _ => "UnicodeDecodeError"
  | missingDirectory _ => "OSError"
  | address e => e.name
  | missingPart _ => "ImportError"
  | config _ => "AssertionError"
  | noLevel => "AttributeError"

/-- The fault in words. -/
def message : Fault → String
  | expression e => e.description
  | rounding .power => "(34, 'Numerical result out of range')"
  | rounding .exponent => "int too large to convert to float"
  | places .negative => "precision must be >= 0"
  | places .large => "Python int too large to convert to C int"
  | places .huge => "Python int too large to convert to C long"
  | unlisted name => Text.quoted name
  | secondOperandMissing op =>
    s!"Operators.{op.word}() missing 1 required positional argument: 'operand2'"
  | unsupportedLogBase text => s!"Unsupported log base: {text}"
  | file e => e.message
  | encoding f => f.message
  | missingDirectory path => s!"Cannot save file into a non-existent directory: '{path}'"
  | address e => e.message
  | missingPart part =>
    "\x60Import " ++ part.name ++ "\x60 failed.  Use pip, conda, or your preferred package " ++
      s!"management tool to install the {part.name} package."
  | config f => f.message
  | reservedLevel r => r.message
  | noLevel => "'list' object has no attribute 'upper'"

end Fault

end DeskCalc
