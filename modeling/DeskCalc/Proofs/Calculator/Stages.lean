import DeskCalc.Calculator
import DeskCalc.Proofs.Postfix.Rejection
import DeskCalc.Proofs.Token.Blanks

/-!
# The stages of an evaluation

An evaluation succeeds when its stages do, one after the other, and the check of the parentheses
takes part in failure only: tokens with a postfix form have balanced parentheses, so the text that
they are read from has (`postfixForm_eq_ok_iff`). What fails before rounding fails with an error of
the expression (`exists_toExpressionError?`).
-/

namespace DeskCalc.Calculator

open Token

section
variable {c : Calculator} {text : List Char} {s : String} {form : List Token}

/-- A text has a postfix form when it is read as tokens, not none of them, that have one. -/
theorem formOf_eq_ok_iff :
    formOf text = .ok form ↔
      ∃ tokens, scan text = .ok tokens ∧ tokens ≠ [] ∧ Postfix.ofInfix tokens = .ok form := by
  constructor
  · intro h
    cases hscan : scan text with
    | error cause => rw [formOf, hscan] at h; cases h
    | ok tokens =>
      cases tokens with
      | nil => rw [formOf, hscan] at h; cases h
      | cons t rest =>
        rw [formOf, hscan] at h
        cases hform : Postfix.ofInfix (t :: rest) with
        | error cause => simp only [hform] at h; cases h
        | ok f => simp only [hform] at h; cases h; exact ⟨_, rfl, List.cons_ne_nil _ _, hform⟩
  · rintro ⟨tokens, hscan, hne, hform⟩
    obtain ⟨t, rest, rfl⟩ := List.exists_cons_of_ne_nil hne
    rw [formOf, hscan]
    simp only [hform]
    rfl

/-- Tokens are brought into postfix form unless there are none. -/
theorem formOf_of_scan {tokens : List Token} (hscan : scan text = .ok tokens) (hne : tokens ≠ []) :
    formOf text = (Postfix.ofInfix tokens).mapError .parse := by
  obtain ⟨t, rest, rfl⟩ := List.exists_cons_of_ne_nil hne
  rw [formOf, hscan]

/-- The check of the parentheses refuses no expression that has a postfix form. -/
theorem postfixForm_eq_ok_iff :
    c.postfixForm s = .ok form ↔
      ∃ tokens, scan (Text.trim s.toList) = .ok tokens ∧ tokens ≠ [] ∧
        Postfix.ofInfix tokens = .ok form := by
  rw [← formOf_eq_ok_iff, postfixForm]
  split
  · next hcheck =>
    refine iff_of_false nofun fun h => ?_
    obtain ⟨tokens, hscan, -, hform⟩ := formOf_eq_ok_iff.1 h
    have hbalanced := (balanced_of_scan hscan).2 (Postfix.exists_ofInfix_iff.1 ⟨form, hform⟩).2
    simp [hbalanced] at hcheck
  · rfl

/-- Why a text has no postfix form, by the stage that fails. -/
inductive FormFault (text : List Char) : EvaluationError → Prop
  | unbalanced (h : balanced text = false) : FormFault text .unbalanced
  | scan {cause : ScanError} (h : Token.scan text = .error cause) : FormFault text (.scan cause)
  | empty (h : Token.scan text = .ok []) : FormFault text .empty
  | parse {tokens : List Token} {cause : ParseError False} (hscan : Token.scan text = .ok tokens)
    (h : Postfix.ofInfix tokens = .error cause) : FormFault text (.parse cause)

/-- A postfix form is missing because a stage failed. -/
theorem formFault_of_postfixForm {cause : EvaluationError} (h : c.postfixForm s = .error cause) :
    FormFault (Text.trim s.toList) cause := by
  rw [postfixForm] at h
  split at h
  · next hcheck =>
    cases h
    rw [Bool.and_eq_true, Bool.not_eq_true'] at hcheck
    exact .unbalanced hcheck.2
  · rw [formOf] at h
    split at h
    · next hscan => cases h; exact .scan hscan
    · next hscan => cases h; exact .empty hscan
    · next tokens _ hscan =>
      cases hform : Postfix.ofInfix tokens with
      | ok form => rw [hform] at h; cases h
      | error cause => rw [hform] at h; cases h; exact .parse hscan hform

/-- No postfix form fails to be made for want of rounding. -/
theorem postfixForm_ne_rounding (scale : Binary64.ScaleError) :
    c.postfixForm s ≠ .error (.rounding scale) := by
  intro h
  cases formFault_of_postfixForm h

/-- A postfix form has a rounded value when it has a value that can be rounded. -/
theorem valueOf_of_value_eq_ok {x : Float} (h : Postfix.value c.logBase form = .ok x) :
    c.valueOf form = (rounded c.places x).mapError .rounding := by
  rw [valueOf, h]

theorem evaluate_of_postfixForm (h : c.postfixForm s = .ok form) :
    c.evaluate s = c.valueOf form := by
  rw [evaluate, h]
  rfl

theorem evaluate_of_postfixForm_error {cause : EvaluationError}
    (h : c.postfixForm s = .error cause) : c.evaluate s = .error cause := by
  rw [evaluate, h]
  rfl

/-- Why an expression has no value, by the stage that fails. -/
inductive Failure (c : Calculator) (s : String) : EvaluationError → Prop
  | form {cause : EvaluationError} (h : FormFault (Text.trim s.toList) cause) : Failure c s cause
  | value {form : List Token} {cause : EvalError False} (hform : c.postfixForm s = .ok form)
    (h : Postfix.value c.logBase form = .error cause) : Failure c s (.value cause)
  | rounding {form : List Token} {x : Float} {scale : Binary64.ScaleError}
    (hform : c.postfixForm s = .ok form) (hvalue : Postfix.value c.logBase form = .ok x)
    (h : rounded c.places x = .error scale) : Failure c s (.rounding scale)

/-- An expression fails because a stage failed. -/
theorem failure_of_evaluate {cause : EvaluationError} (h : c.evaluate s = .error cause) :
    Failure c s cause := by
  cases hform : c.postfixForm s with
  | error fault =>
    rw [evaluate_of_postfixForm_error hform] at h
    cases h
    exact .form (formFault_of_postfixForm hform)
  | ok form =>
    rw [evaluate_of_postfixForm hform] at h
    cases hvalue : Postfix.value c.logBase form with
    | error fault =>
      rw [valueOf, hvalue] at h
      cases h
      exact .value hform hvalue
    | ok x =>
      rw [valueOf_of_value_eq_ok hvalue] at h
      cases hrounded : rounded c.places x with
      | ok y => rw [hrounded] at h; cases h
      | error scale =>
        rw [hrounded] at h
        cases h
        exact .rounding hform hvalue hrounded

/-- What is no error of rounding is an error of the expression, and of some kind. -/
theorem rounding_or_exists_kind (cause : EvaluationError) :
    (∃ scale, cause = .rounding scale) ∨
      ∃ error kind, cause.toFault = .expression error ∧ error.errorClass.kind? = some kind := by
  cases cause with
  | unbalanced | empty => exact .inr ⟨_, _, rfl, rfl⟩
  | scan cause => cases cause <;> exact .inr ⟨_, _, rfl, rfl⟩
  | parse cause =>
    cases cause with
    | missingOperand | strayClosing | unclosedOpening => exact .inr ⟨_, _, rfl, rfl⟩
    | unlisted name isBare => exact isBare.elim
  | value cause =>
    cases cause with
    | secondOperandMissing op isBare => exact isBare.elim
    | arithmetic cause => cases cause <;> exact .inr ⟨_, _, rfl, rfl⟩
    | empty | insufficientOperands | parenthesis | leftover | unlistedOperator | unlistedFunc =>
      exact .inr ⟨_, _, rfl, rfl⟩
  | rounding scale => exact .inl ⟨scale, rfl⟩

/-- What is no error of rounding is an error of the expression. -/
theorem exists_toExpressionError? {cause : EvaluationError} (h : ∀ scale, cause ≠ .rounding scale) :
    ∃ error, cause.toExpressionError? = some error := by
  obtain ⟨scale, hscale⟩ | ⟨error, kind, herror, -⟩ := rounding_or_exists_kind cause
  · exact absurd hscale (h scale)
  · exact ⟨error, by rw [EvaluationError.toExpressionError?, herror]; rfl⟩

end

end DeskCalc.Calculator
