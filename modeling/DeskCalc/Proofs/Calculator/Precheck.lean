import DeskCalc.Proofs.Calculator.Stages

/-!
# The check of the parentheses

Parentheses are counted twice: by the check, on the characters of a text, and by the parser, on its
tokens. Where the text has tokens, the two agree (`balanced_of_scan`), so an expression that passes
the check is never refused for its parentheses, and one that fails it is refused without the check
as well. What can differ then is the error: without the check a fault of the scan or a missing
operand may come first (`RefusedUnchecked`). Nothing after the parser is reached.
-/

namespace DeskCalc.Calculator

open Token

/-- The errors of a text with unbalanced parentheses that is not checked: the fault of the scan,
else the first operator without its right operand if it is met before a stray parenthesis, else the
parentheses. -/
inductive RefusedUnchecked (text : List Char) : ExpressionError → Prop
  | scan {cause : ScanError} (hscan : scan text = .error cause) :
    RefusedUnchecked text cause.toExpressionError
  | operand {tokens : List Token} {i : Nat} {op : Operator} (hscan : Token.scan text = .ok tokens)
    (hfirst : Postfix.MissingFirst tokens i) (hop : tokens[i]? = some (.operator op)) :
    RefusedUnchecked text (.missingOperand op.name)
  | parenthesis {tokens : List Token} (hscan : Token.scan text = .ok tokens)
    (hnone : ∀ i, ¬ Postfix.MissingFirst tokens i) :
    RefusedUnchecked text ⟨.unmatchedParenthesis, none⟩

section
variable {base : LogBase} {places : Int} {s : String} {text : List Char} {tokens : List Token}
  {error : ExpressionError}

/-- The classes of these errors. -/
theorem RefusedUnchecked.errorClass_mem (h : RefusedUnchecked text error) :
    error.errorClass ∈
      [.unmatchedParenthesis, .missingOperand, .invalidToken, .invalidFunction] := by
  cases h with
  | @scan cause => cases cause <;> simp [ScanError.toExpressionError,
      ExpressionError.invalidFunction, ExpressionError.invalidToken]
  | operand => simp [ExpressionError.missingOperand]
  | parenthesis => simp

/-- No tokens have no parentheses. -/
theorem balanced_nil : Balanced [] :=
  (matchedFrom_zero_iff []).1 rfl

/-- Where the check fails, so does what comes after it, and no value is taken. -/
theorem exists_refusedUnchecked (h : balanced text = false) :
    ∃ cause error, formOf text = .error cause ∧ cause.toFault = .expression error ∧
      RefusedUnchecked text error := by
  cases hscan : scan text with
  | error cause => exact ⟨.scan cause, _, by rw [formOf, hscan], rfl, .scan hscan⟩
  | ok tokens =>
    have hunbalanced : ¬ Balanced tokens := by
      rw [← balanced_of_scan hscan, h]
      exact Bool.false_ne_true
    have hne : tokens ≠ [] := by
      rintro rfl
      exact hunbalanced balanced_nil
    cases hform : Postfix.ofInfix tokens with
    | ok form => exact absurd (Postfix.exists_ofInfix_iff.1 ⟨form, hform⟩).2 hunbalanced
    | error cause =>
      have hparse : formOf text = .error (.parse cause) := by
        rw [formOf_of_scan hscan hne, hform]
        rfl
      rcases Postfix.toFault_of_ofInfix_eq_error hform with ⟨i, op, hfirst, hop, hcause⟩ | h
      · exact ⟨_, _, hparse, hcause, .operand hscan hfirst hop⟩
      · exact ⟨_, _, hparse, h.2, .parenthesis hscan h.1⟩

/-- **The check of the parentheses and the parser agree.** An expression that passes the check has
the same answer with the check as without it, and its parentheses are no fault of its tokens. One
that fails the check is refused either way, with it for the parentheses and without it with an error
of the scan, a missing operand or the parentheses. And the characters of a text with tokens balance
as the tokens do. -/
theorem evaluate_precheck (base : LogBase) (places : Int) (s : String) :
    (balanced (Text.trim s.toList) = true →
      evaluate ⟨base, places, true⟩ s = evaluate ⟨base, places, false⟩ s ∧
      ∀ tokens, scan (Text.trim s.toList) = .ok tokens →
        (Postfix.ofInfix tokens).mapError ParseError.toFault ≠
          .error (.expression ⟨.unmatchedParenthesis, none⟩)) ∧
    (balanced (Text.trim s.toList) = false →
      (evaluate ⟨base, places, true⟩ s).mapError EvaluationError.toFault =
        .error (.expression ⟨.unmatchedParenthesis, none⟩) ∧
      ∃ error, (evaluate ⟨base, places, false⟩ s).mapError EvaluationError.toFault =
          .error (.expression error) ∧
        RefusedUnchecked (Text.trim s.toList) error ∧
        error.errorClass ∈
          [.unmatchedParenthesis, .missingOperand, .invalidToken, .invalidFunction]) ∧
    ∀ tokens, scan s.toList = .ok tokens → (balanced s.toList = true ↔ Balanced tokens) := by
  refine ⟨fun hpasses => ⟨?_, fun tokens hscan => ?_⟩, fun hfails => ⟨?_, ?_⟩,
    fun tokens hscan => balanced_of_scan hscan⟩
  · rw [evaluate, evaluate, postfixForm, postfixForm, hpasses]
    rfl
  · have hbalanced := (balanced_of_scan hscan).1 hpasses
    cases hform : Postfix.ofInfix tokens with
    | ok form =>
      intro h
      cases h
    | error cause =>
      obtain ⟨op, rfl⟩ := Postfix.exists_missingOperand_of_balanced hbalanced hform
      intro h
      cases h
  · rw [evaluate, postfixForm, hfails]
    rfl
  · obtain ⟨cause, error, hform, hcause, hrefused⟩ := exists_refusedUnchecked hfails
    refine ⟨error, ?_, hrefused, hrefused.errorClass_mem⟩
    rw [evaluate_of_postfixForm_error (c := ⟨base, places, false⟩) hform, ← hcause]
    rfl

end

end DeskCalc.Calculator
