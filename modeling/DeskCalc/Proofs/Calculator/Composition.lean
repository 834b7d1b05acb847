import DeskCalc.Proofs.Calculator.Stages
import DeskCalc.Proofs.Postfix.Group

/-!
# Expressions put together from expressions

Parentheses keep an expression together. In parentheses it is read as the same tokens
(`Reads.parenthesized`), and these are written as they are alone (`Postfix.run_group`). So the
postfix form of an operator between two expressions in parentheses, and of a function of one, is put
together from their forms (`postfixForm_composed`). It is so for all that the parser lets through,
be it a sentence or not, unless the last token is an operator.
-/

namespace DeskCalc.Calculator

open Token

/-- The last token of the expression is an operator. -/
def EndsInOperator (s : String) : Prop :=
  ∃ tokens op, scan (Text.trim s.toList) = .ok tokens ∧ tokens.getLast? = some (.operator op)

/-- The expression has a postfix form, and its last token is no operator. -/
structure Groupable (c : Calculator) (s : String) (form : List Token) : Prop where
  postfixForm_eq : c.postfixForm s = .ok form
  not_endsInOperator : ¬ EndsInOperator s

section
variable {c : Calculator} {s s₁ s₂ : String} {tokens form form₁ form₂ : List Token}

/-- A text that is read as tokens has their postfix form, unless there are none. -/
theorem postfixForm_of_reads (h : Reads true s.toList tokens) (hne : tokens ≠ [])
    (hform : Postfix.ofInfix tokens = .ok form) : c.postfixForm s = .ok form :=
  postfixForm_eq_ok_iff.2 ⟨tokens, scan_trim_eq_ok_iff.2 (scanFrom_eq_ok_iff.2 h), hne, hform⟩

/-- What can be put into parentheses is what is read as tokens that can. -/
theorem groupable_iff :
    Groupable c s form ↔
      ∃ tokens, Reads true s.toList tokens ∧ tokens ≠ [] ∧ Postfix.Groups tokens form := by
  constructor
  · rintro ⟨hread, hlast⟩
    obtain ⟨tokens, hscan, hne, hform⟩ := postfixForm_eq_ok_iff.1 hread
    refine ⟨tokens, scanFrom_eq_ok_iff.1 (scan_trim_eq_ok_iff.1 hscan), hne, hform, ?_⟩
    exact fun op hop => hlast ⟨tokens, op, hscan, hop⟩
  · rintro ⟨tokens, hreads, hne, hform, hlast⟩
    refine ⟨postfixForm_of_reads hreads hne hform, fun ⟨others, op, hscan, hop⟩ => ?_⟩
    rw [scan_trim_eq_ok_iff, scan, scanFrom_eq_ok_iff.2 hreads] at hscan
    cases hscan
    exact hlast op hop

/-- A text in parentheses is read as its tokens in parentheses. -/
theorem reads_group {folds : Bool} {text : List Char} (h : Reads true text tokens) :
    Reads folds ('(' :: (text ++ [')'])) (Postfix.group tokens) :=
  h.parenthesized (.done rfl)

/-- An operator after a closing parenthesis is read as one, a minus sign too. -/
theorem reads_operator {text : List Char} (op : Operator) (h : Reads true text tokens) :
    Reads false (op.symbol :: text) (.operator op :: tokens) :=
  .token (first?_of_lexeme (.operator op) fun _ => rfl) h

/-- A name ends before a parenthesis. -/
theorem reads_func {folds : Bool} {text : List Char} (f : Func)
    (h : Reads false ('(' :: text) tokens) :
    Reads folds (f.name.toList ++ '(' :: text) (.func f :: tokens) := by
  refine .token (first?_of_lexeme (.func f) ?_) h
  rintro c ⟨⟩
  decide

/-- **Forms are put together as expressions are.** The form of an operator between two expressions
in parentheses is that of the one, that of the other and the operator; a function is written after
what it is taken of, and parentheses alone leave no trace. -/
theorem postfixForm_composed (h : Groupable c s form) (h₁ : Groupable c s₁ form₁)
    (h₂ : Groupable c s₂ form₂) (op : Operator) (f : Func) :
    c.postfixForm ("(" ++ s₁ ++ ")" ++ op.name ++ "(" ++ s₂ ++ ")") =
        .ok (form₁ ++ form₂ ++ [.operator op]) ∧
      c.postfixForm (f.name ++ "(" ++ s ++ ")") = .ok (form ++ [.func f]) ∧
      c.postfixForm ("(" ++ s ++ ")") = .ok form := by
  obtain ⟨tokens, hreads, -, hgroups⟩ := groupable_iff.1 h
  obtain ⟨left, hleft, -, hgroups₁⟩ := groupable_iff.1 h₁
  obtain ⟨right, hright, -, hgroups₂⟩ := groupable_iff.1 h₂
  refine ⟨?_, ?_, ?_⟩
  · have hread : Reads true ('(' :: (s₁.toList ++ ')' :: op.symbol :: '(' :: (s₂.toList ++ [')'])))
        (.paren true :: (left ++ .paren false :: .operator op :: Postfix.group right)) :=
      hleft.parenthesized (reads_operator op (reads_group hright))
    refine postfixForm_of_reads ?_ (List.cons_ne_nil _ _)
      (Postfix.ofInfix_operator_groups op hgroups₁ hgroups₂)
    simpa [Postfix.group, Operator.name] using hread
  · refine postfixForm_of_reads ?_ (List.cons_ne_nil _ _) (Postfix.ofInfix_func_group f hgroups)
    simpa using reads_func f (reads_group hreads)
  · refine postfixForm_of_reads ?_ (List.cons_ne_nil _ _) (Postfix.ofInfix_group hgroups)
    simpa [Postfix.group] using reads_group hreads

/-- Two numerals side by side, a sign with a blank after it, and a name alone. -/
theorem postfixForm_composed_signs :
    ∃ one two minusThree : Token,
      Groupable standard "1 2" [one, two] ∧ Groupable standard " - 3" [minusThree] ∧
      Groupable standard "cos" [.func .cos] ∧
      standard.postfixForm "(1 2)-( - 3)" =
        .ok ([one, two] ++ [minusThree] ++ [.operator .sub]) ∧
      standard.postfixForm "sqrt(cos)" = .ok ([.func .cos] ++ [.func .sqrt]) ∧
      standard.postfixForm "(cos)" = .ok [.func .cos] := by
  obtain ⟨one, hone⟩ := Option.isSome_iff_exists.1 (show (Decimal.literal? ['1']).isSome from rfl)
  obtain ⟨two, htwo⟩ := Option.isSome_iff_exists.1 (show (Decimal.literal? ['2']).isSome from rfl)
  obtain ⟨three, hthree⟩ :=
    Option.isSome_iff_exists.1 (show (Decimal.literal? ['-', '3']).isSome from rfl)
  have numerals : Reads true "1 2".toList _ :=
    .token (first?_of_literal? hone rfl) (.token (first?_of_literal? htwo rfl) (.done rfl))
  have signed : Reads true " - 3".toList _ := .token (first?_of_literal? hthree rfl) (.done rfl)
  have name : Reads true "cos".toList [.func .cos] := .token rfl (.done rfl)
  have first : Groupable standard "1 2" _ :=
    groupable_iff.2 ⟨_, numerals, List.cons_ne_nil _ _, rfl, by rintro op ⟨⟩⟩
  have second : Groupable standard " - 3" _ :=
    groupable_iff.2 ⟨_, signed, List.cons_ne_nil _ _, rfl, by rintro op ⟨⟩⟩
  have third : Groupable standard "cos" _ :=
    groupable_iff.2 ⟨_, name, List.cons_ne_nil _ _, rfl, by rintro op ⟨⟩⟩
  exact ⟨_, _, _, first, second, third, postfixForm_composed third first second .sub .sqrt⟩

end

end DeskCalc.Calculator
