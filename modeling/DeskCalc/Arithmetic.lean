import DeskCalc.Binary64
import DeskCalc.Operator

/-!
# Arithmetic on doubles

What the operators and functions compute. Three things are refused: a divisor that equals zero, the
square root of a negative number, and the logarithm of a number that is not positive. All else has a
value, an infinity or no number included: `0` to a negative power, a sum that overflows, a negative
number to a fractional power. A comparison with what is no number fails, so none of the three
refuses it.

A result is rounded to decimal places before it is shown (`rounded`).
-/

namespace DeskCalc

/-- Why an operation has no value. -/
inductive ArithmeticError
  | divisionByZero
  /-- Square root of a negative number. -/
  | negativeRoot
  /-- Logarithm of a number that is not positive. -/
  | nonPositiveLogarithm
  deriving DecidableEq

/-- The value of a binary operation. -/
def Operator.apply : Operator → Float → Float → Except ArithmeticError Float
  | add, x, y => .ok (x + y)
  | sub, x, y => .ok (x - y)
  | mul, x, y => .ok (x * y)
  | div, x, y => if y == 0 then .error .divisionByZero else .ok (x / y)
  | pow, x, y => .ok (x ^ y)

/-- The logarithm of a positive number. -/
def LogBase.logarithm : LogBase → Float → Float
  | natural, x => x.log
  | common, x => x.log10

/-- The value of a function. The base matters to `log` only. -/
def Func.apply (base : LogBase) : Func → Float → Except ArithmeticError Float
  | sin, x => .ok x.sin
  | cos, x => .ok x.cos
  | tan, x => .ok x.tan
  | sqrt, x => if x < 0 then .error .negativeRoot else .ok x.sqrt
  | log, x => if x ≤ 0 then .error .nonPositiveLogarithm else .ok (base.logarithm x)
  | ln, x => if x ≤ 0 then .error .nonPositiveLogarithm else .ok (LogBase.natural.logarithm x)

/-! ## Rounding -/

/-- The number rounded to so many decimal places. -/
def rounded (places : Int) (x : Float) : Except Binary64.ScaleError Float :=
  ((Binary64.ofFloat x).roundTo places).map Binary64.toFloat

/-- The places that numbers are rounded to where none are chosen. -/
def usualPlaces : Int := 10

/-- The number rounded to the usual places. -/
def usuallyRounded (x : Float) : Float :=
  match rounded usualPlaces x with
  | .ok y => y
  | .error _ => x

/-! ## Operations by name

Every operation has a word besides its symbol, and the rounding of results has one too. No table of
functions lists these words, so they mean something only where a name is looked up without the
table.
-/

/-- The word for the operation. -/
def Operator.word : Operator → String
  | add => "add"
  | sub => "sub"
  | mul => "mul"
  | div => "div"
  | pow => "power"

/-- What a word means that is no function of the table. -/
inductive Routine
  /-- An operation on two numbers. -/
  | binary (op : Operator)
  /-- The rounding of results. -/
  | rounding
  deriving DecidableEq

/-- The meaning of a word. -/
def Routine.ofWord? (s : String) : Option Routine :=
  if s = "round_result" then some rounding
  else (Operator.all.find? (·.word = s)).map binary

end DeskCalc
