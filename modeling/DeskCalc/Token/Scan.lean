import DeskCalc.Text.Line
import DeskCalc.Token

/-!
# Reading tokens

`scan` reads a text from left to right. Blanks separate tokens and mean nothing else. A run of
letters is one name and has to be a function; a run of digits and points is one numeral; a minus
sign belongs to the numeral after it, with blanks between them or none, at the start of the text,
after an opening parenthesis and after an operator. What is left is a single character: an operator,
a parenthesis or a fault.

The scan stops at the first fault. `signFolds` is all that it knows of the tokens before.
-/

namespace DeskCalc

/-- Why a text is not a list of tokens. -/
inductive ScanError
  /-- A run of letters that is no function. -/
  | unknownName (name : String)
  /-- A run of digits and points that is no numeral, with the sign that was folded into it. -/
  | malformedNumber (text : String)
  /-- A character that starts no token, and the number of characters after it. -/
  | unexpected (c : Char) (after : Nat)
  deriving DecidableEq

namespace ScanError

/-- The error that a user sees. -/
def toExpressionError : ScanError → ExpressionError
  | unknownName name => .invalidFunction name
  | malformedNumber text => .invalidToken text
  | unexpected c _ => .invalidToken (.singleton c)

end ScanError

namespace Token

open DeskCalc.Text DeskCalc.Decimal

theorem length_dropWhile_le {α : Type} (p : α → Bool) (l : List α) :
    (l.dropWhile p).length ≤ l.length :=
  (List.dropWhile_sublist p).length_le

/-- The number that a literal writes, as a token. -/
def ofLiteral (text : List Char) : Except ScanError Token :=
  match literal? text with
  | some value => .ok (.number value.toFloat (.ofList text))
  | none => .error (.malformedNumber (.ofList text))

/-- The function that a run of letters names. -/
def ofWord (word : List Char) : Except ScanError Token :=
  match Func.ofName? (.ofList word) with
  | some f => .ok (.func f)
  | none => .error (.unknownName (.ofList word))

/-- The operator or parenthesis that a character writes. -/
def ofSymbol? (c : Char) : Option Token :=
  if c = '(' then some (.paren true)
  else if c = ')' then some (.paren false)
  else (Operator.ofSymbol? c).map .operator

/-- A minus sign after the token belongs to the numeral that follows. -/
def signFoldsAfter (t : Token) : Bool :=
  t.isOpening || t.isOperator

/-- Reads the tokens of a text. `signFolds` says whether a minus sign here belongs to a numeral. -/
def scanFrom (signFolds : Bool) : List Char → Except ScanError (List Token)
  | [] => .ok []
  | c :: rest =>
    if isBlank c then scanFrom signFolds rest
    else if isLetter c then do
      let t ← ofWord (c :: rest.takeWhile isLetter)
      return t :: (← scanFrom false (rest.dropWhile isLetter))
    else if isNumeral c then do
      let t ← ofLiteral (c :: rest.takeWhile isNumeral)
      return t :: (← scanFrom false (rest.dropWhile isNumeral))
    else if c == '-' && signFolds then do
      let run := rest.dropWhile isBlank
      let t ← ofLiteral ('-' :: run.takeWhile isNumeral)
      return t :: (← scanFrom false (run.dropWhile isNumeral))
    else
      match ofSymbol? c with
      | some t => do return t :: (← scanFrom t.signFoldsAfter rest)
      | none => .error (.unexpected c rest.length)
  termination_by s => s.length
  decreasing_by
    all_goals simp only [List.length_cons, Nat.lt_succ_iff]
    · exact Nat.le_refl _
    · exact length_dropWhile_le isLetter rest
    · exact length_dropWhile_le isNumeral rest
    · exact Nat.le_trans (length_dropWhile_le isNumeral _) (length_dropWhile_le isBlank rest)
    · exact Nat.le_refl _

/-- The tokens of a text. -/
def scan (text : List Char) : Except ScanError (List Token) :=
  scanFrom true text

end Token

/-! ## Parentheses -/

/-- The parentheses of a text balance, when `depth` of them are open before it. -/
def balancedFrom : Nat → List Char → Bool
  | depth, [] => depth == 0
  | depth, '(' :: rest => balancedFrom (depth + 1) rest
  | 0, ')' :: _ => false
  | depth + 1, ')' :: rest => balancedFrom depth rest
  | depth, _ :: rest => balancedFrom depth rest

/-- Every closing parenthesis of the text has an opening one before it, and no other is left. -/
def balanced (text : List Char) : Bool :=
  balancedFrom 0 text

end DeskCalc
