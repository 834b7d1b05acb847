import DeskCalc.Decimal
import DeskCalc.Fault
import DeskCalc.Postfix
import DeskCalc.Token.Scan

/-!
# The calculator

From the text of an expression to a number: trim it, check its parentheses, read its tokens, bring
them into postfix form, take the value, round it. The first stage that fails decides the error.

A calculator is the choice of three things, which `ofOptions` fills in from the settings: the base
of `log`, the number of places that results are rounded to, and whether parentheses are checked
first.

Of many expressions each has a row with its value or its error. An expression that fails costs its
own row a value and no other row anything; only places that nothing can be rounded to end the whole.

Each stage logs what it found: the check of the parentheses when it fails, the scan always, the
postfix form or the parenthesis that spoils it, the missing or surplus values, and the result. The
records are functions of what the stages answer, so evaluation itself knows nothing of them.
-/

namespace DeskCalc

open DeskCalc.Text

/-- Why an expression has no value. -/
inductive EvaluationError
  /-- The check of the parentheses failed. -/
  | unbalanced
  | scan (cause : ScanError)
  /-- The expression has no token. -/
  | empty
  | parse (cause : ParseError False)
  | value (cause : EvalError False)
  /-- The value cannot be rounded to so many places. -/
  | rounding (cause : Binary64.ScaleError)

namespace EvaluationError

/-- The fault that an operation ends with. -/
def toFault : EvaluationError → Fault
  | unbalanced => .expression ⟨.unmatchedParenthesis, none⟩
  | scan cause => .expression cause.toExpressionError
  | empty => .expression ⟨.emptyExpression, none⟩
  | parse cause => cause.toFault
  | value cause => cause.toFault
  | rounding cause => .rounding cause

/-- The error of the expression as the user sees it. What is wrong with the places to round to is no
error of the expression. -/
def toExpressionError? (e : EvaluationError) : Option ExpressionError :=
  e.toFault.expression?

end EvaluationError

/-- How expressions are evaluated. -/
structure Calculator where
  /-- The base of `log`. -/
  logBase : LogBase
  /-- The number of places that results are rounded to. -/
  places : Int
  /-- Parentheses are checked before the tokens are read. -/
  precheck : Bool

namespace Calculator

/-- The calculator of the settings. -/
def standard : Calculator :=
  let settings := Config.standard.calculator
  ⟨.ofNameD settings.logBase, settings.roundDecimals, settings.precheckParentheses⟩

/-- What a caller chooses. An absent choice is that of the settings. -/
structure Options where
  logBase : Option String
  places : Option Int
  precheck : Option Bool

/-- The calculator of a choice. The base is given as a text, which has to name one. -/
def ofOptions (o : Options) : Except Fault Calculator :=
  let base := o.logBase.getD Config.standard.calculator.logBase
  match LogBase.ofName? base with
  | some logBase =>
    .ok ⟨logBase, o.places.getD standard.places, o.precheck.getD standard.precheck⟩
  | none => .error (.unsupportedLogBase base)

/-- The postfix form of a text whose parentheses need no check. -/
def formOf (text : List Char) : Except EvaluationError (List Token) :=
  match Token.scan text with
  | .error cause => .error (.scan cause)
  | .ok [] => .error .empty
  | .ok tokens => (Postfix.ofInfix tokens).mapError .parse

/-- The postfix form of an expression. -/
def postfixForm (c : Calculator) (expression : String) : Except EvaluationError (List Token) :=
  let text := Text.trim expression.toList
  if c.precheck && !balanced text then .error .unbalanced else formOf text

/-- The rounded value of a postfix form. -/
def valueOf (c : Calculator) (form : List Token) : Except EvaluationError Float :=
  match Postfix.value c.logBase form with
  | .error cause => .error (.value cause)
  | .ok value => (rounded c.places value).mapError .rounding

/-- The value of an expression. -/
def evaluate (c : Calculator) (expression : String) : Except EvaluationError Float := do
  c.valueOf (← c.postfixForm expression)

end Calculator

/-- The text of a result, with as many places as the settings show. -/
def resultText (x : Float) : String :=
  Decimal.fixedText Config.standard.calculator.maxFractionDigits.toNat x

/-! ## Rows -/

/-- An expression with its value or its error. -/
structure Row where
  /-- The expression, if there is one. -/
  expression : Option String
  /-- Its value or its error. -/
  outcome : Except ExpressionError Float

namespace Row

/-- The value, no number for an error. -/
def result (r : Row) : Float :=
  match r.outcome with
  | .ok value => value
  | .error _ => Binary64.nan.toFloat

/-- The error in words. -/
def error? (r : Row) : Option String :=
  match r.outcome with
  | .ok _ => none
  | .error e => some e.description

end Row

namespace Calculator

/-- The row of an expression. An absent expression is an empty one. -/
def row (c : Calculator) (expression : Option String) : Except Fault Row :=
  match c.evaluate (expression.getD "") with
  | .ok value => .ok ⟨expression, .ok value⟩
  | .error cause =>
    match cause.toExpressionError? with
    | some e => .ok ⟨expression, .error e⟩
    | none => .error cause.toFault

/-- The rows of expressions, in their order. -/
def rows (c : Calculator) (expressions : List (Option String)) : Except Fault (List Row) :=
  expressions.mapM c.row

end Calculator

/-! ## What is logged -/

/-- What is logged about the scan of a text. -/
def scanRecord (text : String) : Except ScanError (List Token) → Log.Record
  | .ok tokens => ⟨.debug, .tokens, s!"Tokenized {quoted text} into {tokens.length} tokens"⟩
  | .error (.unknownName name) => ⟨.debug, .tokens, s!"Unknown identifier: {quoted name}"⟩
  | .error (.malformedNumber number) =>
    ⟨.debug, .tokens, s!"Unparsable numeric literal: {quoted number}"⟩
  | .error (.unexpected c after) =>
    let position := text.length - after - 1
    ⟨.debug, .tokens, s!"Unexpected character {quoted (.singleton c)} at position {position}"⟩

/-- What is logged about a postfix form. A missing operand is not logged. -/
def formRecord? : Except (ParseError False) (List Token) → Option Log.Record
  | .ok form => some ⟨.debug, .form, s!"Postfix: {Postfix.text form}"⟩
  | .error .strayClosing => some ⟨.debug, .form, "Closing parenthesis without matching '('"⟩
  | .error .unclosedOpening => some ⟨.debug, .form, "Unclosed '(' left on operator stack"⟩
  | .error (.missingOperand _) => none

/-- What is logged about a value. Only a wrong number of values is. -/
def valueRecord? : Except (EvalError False) Float → Option Log.Record
  | .error (.insufficientOperands name) =>
    some ⟨.debug, .value, s!"Insufficient operands for {name}"⟩
  | .error (.leftover count) =>
    some ⟨.debug, .value, s!"Stack has {count} elements after evaluation, expected 1"⟩
  | _ => none

namespace Calculator

/-- The records of bringing an expression into postfix form. -/
def formTrace (c : Calculator) (expression : String) : List Log.Record :=
  let text := trim expression.toList
  if c.precheck && !balanced text then
    [⟨.debug, .calculator, s!"Parenthesis pre-check failed: {quoted (.ofList text)}"⟩]
  else
    let tokens := Token.scan text
    scanRecord (.ofList text) tokens ::
      match tokens with
      | .ok [] | .error _ => []
      | .ok tokens => (formRecord? (Postfix.ofInfix tokens)).toList

/-- The records of evaluating an expression. -/
def trace (c : Calculator) (expression : String) : List Log.Record :=
  c.formTrace expression ++
    match c.postfixForm expression with
    | .error _ => []
    | .ok form =>
      (valueRecord? (Postfix.value c.logBase form)).toList ++
        match c.valueOf form with
        | .error _ => []
        | .ok value =>
          [⟨.debug, .calculator, s!"{quoted expression} = {Decimal.shortestText value}"⟩]

/-- The records of evaluating one expression of many. -/
def rowTrace (c : Calculator) (expression : String) : List Log.Record :=
  c.trace expression ++
    match c.evaluate expression with
    | .ok _ => []
    | .error cause =>
      match cause.toExpressionError? with
      | none => []
      | some e =>
        [⟨.info, .calculator, s!"Failed to evaluate {quoted expression}: {e.description}"⟩]

end Calculator

end DeskCalc
