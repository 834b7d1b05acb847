import DeskCalc.Token

/-!
# Tokens from outside

Tokens made from names, with a check or without one, what they are in words, and collections of
them.

Two numbers are the same token when their values compare equal, whatever texts wrote them; so a
value that is no number is not even the same as itself. Other tokens are the same when kind and name
agree. In a collection tokens and texts stand side by side, with the number of different members; a
number that is the same as no token, itself included, counts every time.
-/

namespace DeskCalc

/-- The kinds of tokens in the order of their declaration. -/
def TokenKind.all : List TokenKind :=
  [number, symbol .operator, symbol .paren, symbol .function]

namespace Token

/-- The token of an operator's name. -/
def ofOperatorName (name : String) : Except ExpressionError Token :=
  match Operator.ofName? name with
  | some op => .ok (.operator op)
  | none => .error (.invalidToken name)

/-- The token of a function's name. -/
def ofFuncName (name : String) : Except ExpressionError Token :=
  match Func.ofName? name with
  | some f => .ok (.func f)
  | none => .error (.invalidFunction name)

end Token

/-- The token of a kind and a name, without a check. -/
def BareToken.ofName (kind : SymbolKind) (name : String) : BareToken :=
  let unlisted : BareToken := .unlisted kind name trivial
  match kind with
  | .operator => ((Operator.ofName? name).map .operator).getD unlisted
  | .function => ((Func.ofName? name).map .func).getD unlisted
  | .paren =>
    if name = parenName true then .paren true
    else if name = parenName false then .paren false
    else unlisted

namespace GenToken

variable {bare : Prop}

/-- The number of operands, or the name that the tables do not list. A number and a parenthesis take
none. -/
def arity : GenToken bare → Except String Nat
  | number .. | paren _ | unlisted .paren .. => .ok 0
  | operator op => .ok op.arity
  | func f => .ok f.arity
  | unlisted .operator name _ | unlisted .function name _ => .error name

/-- The token in words, a number by its value and another one by its name. -/
def describe (t : GenToken bare) : String :=
  match t with
  | number value _ => s!"Token(number, {Decimal.shortestText value})"
  | _ => s!"Token({t.kind.name}, {Text.quoted t.name})"

/-- Numbers are the same when their values compare equal, other tokens when kind and name agree. -/
def same : GenToken bare → GenToken bare → Bool
  | number x _, number y _ => x == y
  | number .., _ | _, number .. => false
  | s, t => s.kind == t.kind && s.name == t.name

end GenToken

/-- A member of a collection: a token, or a text that is none. -/
inductive Item
  | token (t : BareToken)
  | text (s : String)

namespace Item

/-- A text is the same as an equal text only. -/
def same : Item → Item → Bool
  | token s, token t => s.same t
  | text s, text t => s == t
  | _, _ => false

/-- The number of different items: an item counts unless it is the same as an earlier one. -/
def countDistinct : List Item → List Item → Nat
  | _, [] => 0
  | seen, i :: rest =>
    if seen.any (·.same i) then countDistinct seen rest else countDistinct (i :: seen) rest + 1

end Item

end DeskCalc
