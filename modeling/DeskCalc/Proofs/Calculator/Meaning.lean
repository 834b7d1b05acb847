import DeskCalc.Proofs.Calculator.Stages
import DeskCalc.Proofs.Expr.Failure
import DeskCalc.Proofs.Infix.Precedence
import DeskCalc.Proofs.Token.Spelling

/-!
# What an expression means

A text that spells a sentence is worth what the tree of the sentence is worth: the rounded value by
recursion over the tree, or the error of its first failing operation (`evaluate_spelling`). Neither
the blanks nor the redundant parentheses of the text, nor the check of the parentheses, matter.
-/

namespace DeskCalc.Calculator

open Infix Token

section
variable {c : Calculator} {tokens : List Token} {e : Expr} {s : String}

/-- The postfix form of a text that spells a sentence is that of the tree. -/
theorem postfixForm_of_spells (hsentence : Denotes tokens e) (h : Spells true tokens s.toList) :
    c.postfixForm s = .ok e.postorder := by
  refine postfixForm_eq_ok_iff.2 ⟨tokens, ?_, hsentence.ne_nil, ofInfix_of_denotes hsentence⟩
  exact scan_trim_eq_ok_iff.2 ((scan_eq_ok_iff_spells hsentence).2 h)

theorem valueOf_postorder {x : Float} (h : e.value c.logBase = .ok x) :
    c.valueOf e.postorder = (rounded c.places x).mapError .rounding := by
  refine valueOf_of_value_eq_ok ?_
  rw [Expr.value_postorder, h]
  rfl

theorem valueOf_postorder_of_error {cause : ArithmeticError}
    (h : e.value c.logBase = .error cause) :
    c.valueOf e.postorder = .error (.value (.arithmetic cause)) := by
  rw [valueOf, Expr.value_postorder, h]
  rfl

/-- **A spelling of a sentence is worth what its tree is worth.** With a value for every operation
of the tree the answer is the rounded value by recursion over the tree, else the error of the first
operation without one. -/
theorem evaluate_spelling (c : Calculator) (hsentence : Denotes tokens e)
    (hspells : Spells true tokens s.toList) :
    (∀ x, e.value c.logBase = .ok x →
      c.evaluate s = (rounded c.places x).mapError .rounding) ∧
    (∀ cause, e.firstFailure? c.logBase = some cause →
      (c.evaluate s).mapError EvaluationError.toFault =
        .error (.expression cause.toExpressionError)) ∧
    (e.firstFailure? c.logBase = none ↔ ∃ x, e.value c.logBase = .ok x) := by
  have hevaluate := evaluate_of_postfixForm (postfixForm_of_spells (c := c) hsentence hspells)
  refine ⟨fun x hx => ?_, fun cause hcause => ?_, Expr.firstFailure?_eq_none_iff⟩
  · rw [hevaluate, valueOf_postorder hx]
  · rw [hevaluate, valueOf_postorder_of_error (Expr.firstFailure?_eq_some_iff.1 hcause)]
    rfl

/-- Blanks in front, between the names, between the sign and its digit and at the end. -/
theorem evaluate_product_of_negative :
    ∃ two minusThree : Binary64,
      Decimal.literal? ['2'] = some two ∧ Decimal.literal? ['-', '3'] = some minusThree ∧
      standard.evaluate " sin  cos 2*( - 3) " =
        (rounded standard.places (two.toFloat.cos.sin * minusThree.toFloat)).mapError
          .rounding := by
  obtain ⟨two, htwo⟩ := Option.isSome_iff_exists.1 (show (Decimal.literal? ['2']).isSome from rfl)
  obtain ⟨minusThree, hthree⟩ :=
    Option.isSome_iff_exists.1 (show (Decimal.literal? ['-', '3']).isSome from rfl)
  have blank : [' '].all Text.isBlank = true := rfl
  have blanks : [' ', ' '].all Text.isBlank = true := rfl
  have nothing : [].all Text.isBlank = true := rfl
  -- the text from its end: the group, the product, the functions
  have closing : Spells false _ _ := .cons nothing (.paren false) (.nil blank) nofun
  have negative : Spells true _ _ := .cons blank (.negative rfl blank rfl hthree) closing nofun
  have group : Spells true _ _ := .cons nothing (.paren true) negative nofun
  have product : Spells false _ _ := .cons nothing (.operator .mul) group nofun
  have numeral : Spells false _ _ := .cons blank (.numeral rfl htwo) product nofun
  have inner : Spells false _ _ := .cons blanks (.func .cos) numeral fun _ _ _ h => nomatch h
  have outer : Spells true _ _ := .cons blank (.func .sin) inner fun _ _ _ _ => rfl
  have operand : Writes .unit _ _ := .func .sin (.func .cos (.number two.toFloat (.ofList ['2'])))
  have factor : Writes .unit _ _ :=
    .parenthesized (.term (.power (.unit (.number minusThree.toFloat (.ofList ['-', '3'])))))
  have sentence : Denotes [.func .sin, .func .cos, .number two.toFloat (.ofList ['2']),
      .operator .mul, .paren true, .number minusThree.toFloat (.ofList ['-', '3']), .paren false]
      _ := .term (.product (show levelOf .mul = .product from rfl) (.power (.unit operand))
        (.unit factor))
  refine ⟨two, minusThree, htwo, hthree, (evaluate_spelling standard sentence ?_).1 _ rfl⟩
  simpa [Func.name, Operator.symbol] using outer

end

end DeskCalc.Calculator
