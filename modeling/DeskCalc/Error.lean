import DeskCalc.Arithmetic

/-!
# Errors of an expression

An error that a user sees has a class, which fixes its wording and its kind, and a payload, the text
that the wording speaks of. Each stage has causes of its own and turns them into such errors.
-/

namespace DeskCalc

/-- The classes of errors. -/
inductive ErrorClass
  /-- The class of all errors of expressions. -/
  | expression
  | invalidToken
  /-- A number outside the domain of a function. It is shown as an invalid token. -/
  | domain
  | invalidFunction
  | unmatchedParenthesis
  | divisionByZero
  | insufficientOperands
  | invalidExpression
  | emptyExpression
  | missingOperand
  deriving DecidableEq

namespace ErrorClass

/-- The classes, the general one first. -/
def all : List ErrorClass :=
  [expression, invalidToken, domain, invalidFunction, unmatchedParenthesis, divisionByZero,
   insufficientOperands, invalidExpression, emptyExpression, missingOperand]

/-- The name that logs show. -/
def name : ErrorClass → String
  | expression => "ExpressionError"
  | invalidToken => "InvalidTokenError"
  | domain => "DomainError"
  | invalidFunction => "InvalidFunctionError"
  | unmatchedParenthesis => "UnmatchedParenthesisError"
  | divisionByZero => "DivisionByZeroError"
  | insufficientOperands => "InsufficientOperandsError"
  | invalidExpression => "InvalidExpressionError"
  | emptyExpression => "EmptyExpressionError"
  | missingOperand => "MissingOperandError"

/-- The class of a name. -/
def ofName? (s : String) : Option ErrorClass :=
  all.find? (·.name = s)

/-- The kind of the errors of a class. The general class has none. -/
def kind? : ErrorClass → Option String
  | expression => none
  | invalidToken | domain => some "invalid_token"
  | invalidFunction => some "invalid_function"
  | unmatchedParenthesis => some "unmatched_parenthesis"
  | divisionByZero => some "division_by_zero"
  | insufficientOperands => some "insufficient_operands"
  | invalidExpression => some "invalid_expression"
  | emptyExpression => some "empty_expression"
  | missingOperand => some "missing_operand"

/-- The kinds of errors. A domain error shares the kind of invalid tokens. -/
def kinds : List String :=
  (all.filterMap kind?).eraseDups

/-- Errors of the class count as invalid tokens. -/
def isInvalidToken : ErrorClass → Bool
  | invalidToken | domain => true
  | _ => false

end ErrorClass

/-- An error as the user sees it. -/
structure ExpressionError where
  /-- What kind of error it is. -/
  errorClass : ErrorClass
  /-- What the description speaks of. -/
  payload : Option String
  deriving DecidableEq

namespace ExpressionError

/-- The error in words. -/
def description (e : ExpressionError) : String :=
  let payload := e.payload.getD "None"
  match e.errorClass with
  | .expression => "Expression error"
  | .invalidToken | .domain => s!"Invalid token: '{payload}'"
  | .invalidFunction => s!"Invalid function: '{payload}'"
  | .unmatchedParenthesis => "Unmatched parenthesis"
  | .divisionByZero => "Division by zero"
  | .insufficientOperands => "Insufficient operands for operation"
  | .invalidExpression => "Invalid expression structure"
  | .emptyExpression => "Empty expression"
  | .missingOperand => s!"Missing operand for operator '{payload}'"

/-- A text that is no token. -/
def invalidToken (text : String) : ExpressionError := ⟨.invalidToken, some text⟩

/-- A name that is no function. -/
def invalidFunction (name : String) : ExpressionError := ⟨.invalidFunction, some name⟩

/-- An operator without its right operand. -/
def missingOperand (name : String) : ExpressionError := ⟨.missingOperand, some name⟩

/-- A number outside the domain of a square root or of a logarithm. -/
def domain (root : Bool) : ExpressionError :=
  ⟨.domain, some (if root then "sqrt of negative number" else "log of non-positive number")⟩

end ExpressionError

/-- The error that an operation without a value is reported as. -/
def ArithmeticError.toExpressionError : ArithmeticError → ExpressionError
  | divisionByZero => ⟨.divisionByZero, none⟩
  | negativeRoot => .domain true
  | nonPositiveLogarithm => .domain false

end DeskCalc
