import DeskCalc.Fault
import DeskCalc.Token

/-!
# Postfix form and its value

`Postfix.ofInfix` puts every operator and every function after its operands. It reads the tokens
once and holds back what still waits for an operand on its right: operators, functions and opening
parentheses, the latest first. A number is written at once. A function binds more tightly than any
operator, so it is written before the operator that follows its argument.

Two faults are found on the way, each at the token that shows it: an operator with another operator
or a closing parenthesis right after it, and a closing parenthesis without an opening one. An
opening parenthesis that is never closed shows at the end.

`Postfix.value` reads the tokens of a postfix form once against a list of values, the latest first.
A number adds itself; a function replaces one value and an operator two, the later one being its
right operand. What is left at the end has to be a single value. A function whose name no table
lists is looked up among the operations by name. The rounding of results takes one value as a
function does; the other operations lack their second operand.
-/

namespace DeskCalc

/-- Why tokens have no postfix form. -/
inductive ParseError (bare : Prop)
  /-- An operator without its right operand. -/
  | missingOperand (name : String)
  /-- A closing parenthesis without an opening one. -/
  | strayClosing
  /-- An opening parenthesis without a closing one. -/
  | unclosedOpening
  /-- An operator that the table does not list, so that its precedence is unknown. -/
  | unlisted (name : String) (isBare : bare)

/-- The fault that an operation ends with. -/
def ParseError.toFault {bare : Prop} : ParseError bare → Fault
  | missingOperand name => .expression (.missingOperand name)
  | strayClosing | unclosedOpening => .expression ⟨.unmatchedParenthesis, none⟩
  | unlisted name _ => .unlisted name

/-- Why a postfix form has no value. -/
inductive EvalError (bare : Prop)
  /-- There are no tokens. -/
  | empty
  /-- Too few values for an operator or a function. -/
  | insufficientOperands (name : String)
  /-- A parenthesis. -/
  | parenthesis
  /-- Another number of values than one at the end. -/
  | leftover (count : Nat)
  /-- An operation without a value. -/
  | arithmetic (cause : ArithmeticError)
  /-- An operator that the table does not list. -/
  | unlistedOperator (name : String) (isBare : bare)
  /-- A function that the table does not list. -/
  | unlistedFunc (name : String) (isBare : bare)
  /-- An operation on two values, named as a function. -/
  | secondOperandMissing (op : Operator) (isBare : bare)

/-- The fault that an operation ends with. -/
def EvalError.toFault {bare : Prop} : EvalError bare → Fault
  | empty => .expression ⟨.emptyExpression, none⟩
  | insufficientOperands _ => .expression ⟨.insufficientOperands, none⟩
  | parenthesis | leftover _ => .expression ⟨.invalidExpression, none⟩
  | arithmetic cause => .expression cause.toExpressionError
  | unlistedOperator name _ => .expression (.invalidToken name)
  | unlistedFunc name _ => .expression (.invalidFunction name)
  | secondOperandMissing op _ => .secondOperandMissing op

/-- What waits for an operand on its right. -/
inductive Held (bare : Prop)
  | operator (op : Operator)
  | func (f : Func)
  /-- A function that the table does not list. -/
  | unlistedFunc (name : String) (isBare : bare)
  /-- An opening parenthesis, which holds back all that is under it. -/
  | opening

namespace Held

variable {bare : Prop}

/-- What is written for it. A parenthesis is not written. -/
def token? : Held bare → Option (GenToken bare)
  | operator op => some (.operator op)
  | func f => some (.func f)
  | unlistedFunc name isBare => some (.unlisted .function name isBare)
  | opening => none

/-- It is an opening parenthesis. -/
def isOpening : Held bare → Bool
  | opening => true
  | _ => false

/-- It is a function. -/
def isFunc : Held bare → Bool
  | func _ | unlistedFunc .. => true
  | _ => false

/-- It takes its operand before `op` does: a function always, an operator when it binds more tightly
or as tightly and to the left. -/
def precedes (op : Operator) : Held bare → Bool
  | func _ | unlistedFunc .. => true
  | operator held =>
    if op.rightAssociative then op.precedence < held.precedence
    else op.precedence ≤ held.precedence
  | opening => false

end Held

namespace Postfix

variable {bare : Prop}

/-- No operand can start at the token: it is an operator or a closing parenthesis. -/
def startsNoOperand (t : GenToken bare) : Bool :=
  t.isOperator || (t.isParen && !t.isOpening)

/-- What is written when a token is read, and what is held back then. `next` is the token after
it. -/
def step (held : List (Held bare)) (t : GenToken bare) (next : Option (GenToken bare)) :
    Except (ParseError bare) (List (GenToken bare) × List (Held bare)) :=
  match t with
  | .number .. => .ok ([t], held)
  | .func f => .ok ([], .func f :: held)
  | .unlisted .function name isBare => .ok ([], .unlistedFunc name isBare :: held)
  | .paren true => .ok ([], .opening :: held)
  | .paren false | .unlisted .paren .. =>
    let inner := (held.takeWhile (!·.isOpening)).filterMap Held.token?
    match held.dropWhile (!·.isOpening) with
    | [] => .error .strayClosing
    | _ :: outer =>
      match outer with
      | f :: below =>
        if f.isFunc then .ok (inner ++ f.token?.toList, below) else .ok (inner, outer)
      | [] => .ok (inner, [])
  | .operator op =>
    if next.any startsNoOperand then .error (.missingOperand op.name)
    else
      .ok ((held.takeWhile (·.precedes op)).filterMap Held.token?,
        .operator op :: held.dropWhile (·.precedes op))
  | .unlisted .operator name isBare =>
    if next.any startsNoOperand then .error (.missingOperand name)
    else .error (.unlisted name isBare)

/-- What is written after the last token. -/
def drain (held : List (Held bare)) : Except (ParseError bare) (List (GenToken bare)) :=
  if held.any Held.isOpening then .error .unclosedOpening
  else .ok (held.filterMap Held.token?)

/-- The postfix form of the rest of the tokens, when `held` waits before them. -/
def run (held : List (Held bare)) :
    List (GenToken bare) → Except (ParseError bare) (List (GenToken bare))
  | [] => drain held
  | t :: rest => do
    let (written, held) ← step held t rest.head?
    return written ++ (← run held rest)

/-- The postfix form of infix tokens. -/
def ofInfix (tokens : List (GenToken bare)) :
    Except (ParseError bare) (List (GenToken bare)) :=
  run [] tokens

/-- The names of the tokens, with single spaces between them. -/
def text (tokens : List (GenToken bare)) : String :=
  " ".intercalate (tokens.map GenToken.name)

/-! ## The value -/

/-- The value of an unlisted function. -/
def routineValue (name : String) (isBare : bare) (x : Float) : Except (EvalError bare) Float :=
  match Routine.ofWord? name with
  | some .rounding => .ok (usuallyRounded x)
  | some (.binary op) => .error (.secondOperandMissing op isBare)
  | none => .error (.unlistedFunc name isBare)

/-- The values after a token. -/
def apply (base : LogBase) (values : List Float) :
    GenToken bare → Except (EvalError bare) (List Float)
  | .number value _ => .ok (value :: values)
  | .operator op =>
    match values with
    | y :: x :: below => (op.apply x y).mapError .arithmetic |>.map (· :: below)
    | _ => .error (.insufficientOperands op.name)
  | .unlisted .operator name isBare =>
    match values with
    | _ :: _ :: _ => .error (.unlistedOperator name isBare)
    | _ => .error (.insufficientOperands name)
  | .func f =>
    match values with
    | x :: below => (f.apply base x).mapError .arithmetic |>.map (· :: below)
    | [] => .error (.insufficientOperands f.name)
  | .unlisted .function name isBare =>
    match values with
    | x :: below => (routineValue name isBare x).map (· :: below)
    | [] => .error (.insufficientOperands name)
  | .paren _ | .unlisted .paren .. => .error .parenthesis

/-- The single value. -/
def result : List Float → Except (EvalError bare) Float
  | [value] => .ok value
  | values => .error (.leftover values.length)

/-- The value of a postfix form. -/
def value (base : LogBase) (tokens : List (GenToken bare)) : Except (EvalError bare) Float :=
  if tokens.isEmpty then .error .empty
  else do result (← tokens.foldlM (apply base) [])

end Postfix

end DeskCalc
