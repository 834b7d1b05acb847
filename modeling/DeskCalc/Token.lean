import DeskCalc.Decimal
import DeskCalc.Error
import DeskCalc.Text.Quoted

/-!
# Tokens

A token is a number with the text that wrote it, a listed operator, a listed function or a
parenthesis. `Token` has no other cases. `BareToken` has one more: a name that no table lists, under
the kind it claims to be. The stages that read tokens are written once for both, and what they
answer to an unlisted name carries a proof that bare tokens were read, so on `Token` that answer
does not exist.

What tokens look like from outside, made from names and set side by side, is in `Token/Item`.
-/

namespace DeskCalc

/-- The kinds of tokens that a name makes. -/
inductive SymbolKind
  | operator | paren | function
  deriving DecidableEq

/-- The kinds of tokens. -/
inductive TokenKind
  | number
  | symbol (kind : SymbolKind)
  deriving DecidableEq

namespace TokenKind

/-- The word for the kind. -/
def name : TokenKind → String
  | number => "number"
  | symbol .operator => "operator"
  | symbol .paren => "paren"
  | symbol .function => "function"

end TokenKind

/-- The names of the parentheses, the opening one first. -/
def parenName (opening : Bool) : String :=
  if opening then "(" else ")"

/-- A token, possibly with an unlisted name when `bare` holds. -/
inductive GenToken (bare : Prop)
  /-- A number and the text that wrote it. -/
  | number (value : Float) (text : String)
  | operator (op : Operator)
  | func (f : Func)
  | paren (opening : Bool)
  /-- A name that the table of its kind does not list. -/
  | unlisted (kind : SymbolKind) (name : String) (isBare : bare)

/-- A token whose symbol is listed. -/
abbrev Token := GenToken False

/-- A token of any name. -/
abbrev BareToken := GenToken True

namespace GenToken

variable {bare : Prop}

/-- The kind of a token. -/
def kind : GenToken bare → TokenKind
  | number .. => .number
  | operator _ => .symbol .operator
  | func _ => .symbol .function
  | paren _ => .symbol .paren
  | unlisted kind .. => .symbol kind

/-- The text that writes the token. -/
def name : GenToken bare → String
  | number _ text => text
  | operator op => op.name
  | func f => f.name
  | paren opening => parenName opening
  | unlisted _ name _ => name

/-- The token is an opening parenthesis. -/
def isOpening : GenToken bare → Bool
  | paren opening => opening
  | _ => false

/-- The token is an operator, listed or not. -/
def isOperator (t : GenToken bare) : Bool :=
  t.kind = .symbol .operator

/-- The token is a parenthesis, listed or not. -/
def isParen (t : GenToken bare) : Bool :=
  t.kind = .symbol .paren

/-- A number written by its shortest text. -/
def ofNumber (value : Float) : GenToken bare :=
  number value (Decimal.shortestText value)

end GenToken

namespace Token

/-- A token whose symbol is listed, among those of any name. -/
def toBare : Token → BareToken
  | .number value text => .number value text
  | .operator op => .operator op
  | .func f => .func f
  | .paren opening => .paren opening

end Token

end DeskCalc
