/-!
# Operators and functions

The symbols of an expression: five binary operators and six functions of one argument, each with the
name it is written by. `all` lists them in the order of the tables, and the look-ups find exactly
the listed names (`ofSymbol?_eq_some_iff`, `ofName?_eq_some_iff`).
-/

namespace DeskCalc

/-- A binary operator. -/
inductive Operator
  | add | sub | mul | div | pow
  deriving DecidableEq

namespace Operator

/-- The operators, in the order of the table. -/
def all : List Operator := [pow, mul, div, add, sub]

/-- The character that writes the operator. -/
def symbol : Operator → Char
  | add => '+'
  | sub => '-'
  | mul => '*'
  | div => '/'
  | pow => '^'

/-- The symbol as a text. -/
def name (op : Operator) : String :=
  .singleton op.symbol

/-- How tightly the operator binds: powers before products before sums. -/
def precedence : Operator → Nat
  | pow => 4
  | mul | div => 3
  | add | sub => 2

/-- Powers associate to the right, the others to the left. -/
def rightAssociative : Operator → Bool
  | pow => true
  | _ => false

/-- Every operator takes two operands. -/
def arity (_ : Operator) : Nat := 2

/-- The binding of the operator in words. -/
def describe (op : Operator) : String :=
  let associative := if op.rightAssociative then "True" else "False"
  s!"OperatorInfo(precedence={op.precedence}, right_associative={associative})"

/-- The operator written by a character. -/
def ofSymbol? (c : Char) : Option Operator :=
  all.find? (·.symbol = c)

/-- The operator of a name. -/
def ofName? (s : String) : Option Operator :=
  all.find? (·.name = s)

@[simp] theorem ofSymbol?_symbol (op : Operator) : ofSymbol? op.symbol = some op := by
  cases op <;> rfl

theorem ofSymbol?_eq_some_iff {c : Char} {op : Operator} :
    ofSymbol? c = some op ↔ op.symbol = c := by
  constructor
  · intro h
    simpa using List.find?_some h
  · rintro rfl
    exact ofSymbol?_symbol op

@[simp] theorem ofName?_name (op : Operator) : ofName? op.name = some op := by
  cases op <;> rfl

theorem ofName?_eq_some_iff {s : String} {op : Operator} :
    ofName? s = some op ↔ op.name = s := by
  constructor
  · intro h
    simpa using List.find?_some h
  · rintro rfl
    exact ofName?_name op

end Operator

/-- A function of one argument. -/
inductive Func
  | sin | cos | tan | sqrt | log | ln
  deriving DecidableEq

namespace Func

/-- The functions, in the order of the table. -/
def all : List Func := [sin, cos, tan, sqrt, log, ln]

/-- The letters that write the function. -/
def name : Func → String
  | sin => "sin"
  | cos => "cos"
  | tan => "tan"
  | sqrt => "sqrt"
  | log => "log"
  | ln => "ln"

/-- Every function takes one operand. -/
def arity (_ : Func) : Nat := 1

/-- The function of a name. -/
def ofName? (s : String) : Option Func :=
  all.find? (·.name = s)

@[simp] theorem ofName?_name (f : Func) : ofName? f.name = some f := by
  cases f <;> rfl

theorem ofName?_eq_some_iff {s : String} {f : Func} : ofName? s = some f ↔ f.name = s := by
  constructor
  · intro h
    simpa using List.find?_some h
  · rintro rfl
    exact ofName?_name f

end Func

/-- The base of `log`. -/
inductive LogBase
  /-- Base e, as `ln`. -/
  | natural
  /-- Base ten. -/
  | common
  deriving DecidableEq

namespace LogBase

/-- The text that chooses the base. -/
def name : LogBase → String
  | natural => "e"
  | common => "10"

/-- The base of a text. -/
def ofName? (s : String) : Option LogBase :=
  if s = "e" then some natural else if s = "10" then some common else none

/-- The base of a text, the natural one unless the text is that of the common one. -/
def ofNameD (s : String) : LogBase :=
  if s = "10" then common else natural

end LogBase

end DeskCalc
