import DeskCalc.Proofs.Binary64.Overflow
import DeskCalc.Proofs.Calculator.Stages
import DeskCalc.Proofs.Postfix.Renaming
import DeskCalc.Proofs.Postfix.Order
import DeskCalc.Proofs.Postfix.Recognition

/-!
# How an evaluation ends

With a value, with an error of the expression that has a kind, or with an overflow of the rounding;
with nothing else, whatever the text and the options. The overflow is a matter of the number of
places alone, once there is a finite value to be rounded (`overflows_iff`).

Each stage relies on the one before it: only listed names leave the scan, no parenthesis leaves the
parser, and the values on the stack are counted. So what the stages keep in store for anything else
is never used.
-/

namespace DeskCalc.Calculator

open Token

/-- The evaluation ends with an overflow. -/
def Overflows (c : Calculator) (s : String) : Prop :=
  ∃ fault, (c.evaluate s).mapError EvaluationError.toFault = .error fault ∧
    fault.name = "OverflowError"

/-- Before it is rounded, the expression has a value that is finite. -/
def HasFiniteValue (c : Calculator) (s : String) : Prop :=
  ∃ form x negative units, c.postfixForm s = .ok form ∧ Postfix.value c.logBase form = .ok x ∧
    Binary64.ofFloat x = .finite negative units

/-- The number of places, or its negative, is too large for a power of ten with a finite double. -/
def CannotScale (places : Int) : Prop :=
  309 ≤ places ∨ places ≤ -(Binary64.overflowFrom : Int)

/-- How an evaluation ends, and what none of its stages meets. -/
structure EndsSafely (c : Calculator) (s : String) : Prop where
  /-- There is a value, an error of the expression that has a kind, or an overflow. -/
  outcome : (∃ x, c.evaluate s = .ok x) ∨
    (∃ error kind, (c.evaluate s).mapError EvaluationError.toFault = .error (.expression error) ∧
      error.errorClass.kind? = some kind) ∨
    Overflows c s
  /-- Overflows are those of finite values that cannot be scaled. -/
  overflow : Overflows c s ↔ CannotScale c.places ∧ HasFiniteValue c s
  /-- What is read as tokens holds no unknown name and no invalid token. -/
  errorClass_ne : ∀ tokens error, scan (Text.trim s.toList) = .ok tokens →
    (c.evaluate s).mapError EvaluationError.toFault = .error (.expression error) →
    error.errorClass ≠ .invalidFunction ∧ error.errorClass ≠ .invalidToken
  /-- An invalid expression has left two values or more on the stack. -/
  two_values : ∀ error,
    (c.evaluate s).mapError EvaluationError.toFault = .error (.expression error) →
    error.errorClass = .invalidExpression →
    ∃ form values, c.postfixForm s = .ok form ∧
      form.foldlM (Postfix.apply c.logBase) [] = .ok values ∧ 2 ≤ values.length
  /-- No parenthesis is evaluated. -/
  isParen_eq_false : ∀ form, c.postfixForm s = .ok form → ∀ t ∈ form, t.isParen = false
  /-- Read as tokens of any name, the tokens lead to no unlisted operator in the parser and to none
  of the fallbacks of the evaluation. -/
  no_fallback : ∀ tokens, scan (Text.trim s.toList) = .ok tokens →
    (∀ name isBare, Postfix.ofInfix (tokens.map toBare) ≠ .error (.unlisted name isBare)) ∧
    ∀ form cause, Postfix.ofInfix (tokens.map toBare) = .ok form →
      Postfix.value c.logBase form = .error cause → cause.isFallback = false

section
variable {c : Calculator} {s : String} {error : ExpressionError}

theorem rounded_eq_error_iff {places : Int} {x : Float} {scale : Binary64.ScaleError} :
    rounded places x = .error scale ↔ (Binary64.ofFloat x).roundTo places = .error scale := by
  rw [rounded]
  cases (Binary64.ofFloat x).roundTo places <;> simp [Except.map]

/-- No class of errors has the name of the overflow. -/
theorem name_ne_overflowError (errorClass : ErrorClass) : errorClass.name ≠ "OverflowError" := by
  cases errorClass <;> decide

/-- An overflow is an error of the rounding. -/
theorem overflows_iff_rounding :
    Overflows c s ↔ ∃ scale, c.evaluate s = .error (.rounding scale) := by
  constructor
  · rintro ⟨fault, hfault, hname⟩
    cases hevaluate : c.evaluate s with
    | ok x => rw [hevaluate] at hfault; cases hfault
    | error cause =>
      rw [hevaluate] at hfault
      cases hfault
      rcases rounding_or_exists_kind cause with ⟨scale, rfl⟩ | ⟨error, kind, herror, -⟩
      · exact ⟨scale, rfl⟩
      · rw [herror] at hname
        exact absurd hname (name_ne_overflowError error.errorClass)
  · rintro ⟨scale, hscale⟩
    exact ⟨_, by rw [hscale]; rfl, rfl⟩

/-- **Overflows are those of finite values that cannot be scaled.** -/
theorem overflows_iff : Overflows c s ↔ CannotScale c.places ∧ HasFiniteValue c s := by
  rw [overflows_iff_rounding]
  constructor
  · rintro ⟨scale, hscale⟩
    cases failure_of_evaluate hscale with
    | form h => cases h
    | @rounding form x _ hform hvalue hrounded =>
      have herror := (Binary64.exists_roundTo_error_iff _ _).1 ⟨_, rounded_eq_error_iff.1 hrounded⟩
      obtain ⟨⟨negative, units, hfinite⟩, hplaces⟩ := herror
      exact ⟨hplaces, form, x, negative, units, hform, hvalue, hfinite⟩
  · rintro ⟨hplaces, form, x, negative, units, hform, hvalue, hfinite⟩
    obtain ⟨scale, hscale⟩ :=
      (Binary64.exists_roundTo_error_iff _ _).2 ⟨⟨negative, units, hfinite⟩, hplaces⟩
    refine ⟨scale, ?_⟩
    rw [evaluate_of_postfixForm hform, valueOf_of_value_eq_ok hvalue,
      rounded_eq_error_iff.2 hscale]
    rfl

/-- The stage that an error of the expression comes from. -/
theorem exists_failure_of_toFault
    (h : (c.evaluate s).mapError EvaluationError.toFault = .error (.expression error)) :
    ∃ cause, Failure c s cause ∧ cause.toFault = .expression error := by
  cases hevaluate : c.evaluate s with
  | ok x => rw [hevaluate] at h; cases h
  | error cause =>
    rw [hevaluate] at h
    injection h with h
    exact ⟨cause, failure_of_evaluate hevaluate, h⟩

theorem isParen_eq_false_of_postfixForm {form : List Token} (h : c.postfixForm s = .ok form) :
    ∀ t ∈ form, t.isParen = false := by
  obtain ⟨tokens, -, -, hform⟩ := postfixForm_eq_ok_iff.1 h
  exact (Postfix.defers_of_run hform).isParen_eq_false

theorem outcome_of_evaluate (c : Calculator) (s : String) : (∃ x, c.evaluate s = .ok x) ∨
    (∃ error kind, (c.evaluate s).mapError EvaluationError.toFault = .error (.expression error) ∧
      error.errorClass.kind? = some kind) ∨ Overflows c s := by
  cases hevaluate : c.evaluate s with
  | ok x => exact .inl ⟨x, rfl⟩
  | error cause =>
    rcases rounding_or_exists_kind cause with ⟨scale, rfl⟩ | ⟨error, kind, herror, hkind⟩
    · exact .inr (.inr (overflows_iff_rounding.2 ⟨scale, hevaluate⟩))
    · exact .inr (.inl ⟨error, kind, congrArg Except.error herror, hkind⟩)

/-! ## What no stage meets -/

theorem isFallback_toBare (cause : EvalError False) :
    cause.toBare.isFallback = cause.isFallback := by
  cases cause with
  | empty | insufficientOperands | parenthesis | leftover | arithmetic => rfl
  | unlistedOperator name isBare | unlistedFunc name isBare => exact isBare.elim
  | secondOperandMissing op isBare => exact isBare.elim

/-- Without parentheses no form is refused for what is no token of a form. -/
theorem isFallback_eq_false_of_value {base : LogBase} {form : List Token} {cause : EvalError False}
    (hparen : ∀ t ∈ form, t.isParen = false) (h : Postfix.value base form = .error cause) :
    cause.isFallback = false := by
  rcases Postfix.arithmetic_or_breaks_of_value h with
    ⟨e, rfl⟩ | ⟨trees, rest, values, rfl, -, hbreaks⟩
  · rfl
  · cases hbreaks with
    | empty | leftover | func | operator => rfl
    | parenthesis _ opening rest =>
      have hmem : .paren opening ∈ Postfix.listing trees ++ .paren opening :: rest := by simp
      exact absurd (hparen _ hmem) (by nofun)

/-- Where there is no postfix form, the error is one of the scan, or it speaks of the parentheses,
of a missing operand or of an empty expression. -/
theorem errorClass_of_formFault {text : List Char} {cause : EvaluationError}
    (h : FormFault text cause) (hcause : cause.toFault = .expression error) :
    (∃ fault, scan text = .error fault ∧
        error.errorClass ∈ [.invalidToken, .invalidFunction]) ∨
      error.errorClass ∈ [.unmatchedParenthesis, .emptyExpression, .missingOperand] := by
  cases h with
  | unbalanced | empty => cases hcause; exact .inr (by decide)
  | @scan cause hscan =>
    refine .inl ⟨cause, hscan, ?_⟩
    cases cause <;> cases hcause <;> exact List.mem_of_elem_eq_true rfl
  | @parse _ cause _ _ =>
    cases cause with
    | missingOperand | strayClosing | unclosedOpening =>
      cases hcause
      exact .inr (List.mem_of_elem_eq_true rfl)
    | unlisted name isBare => exact isBare.elim

/-- Where a form has no value, the error is one of an operation or of its operands, or there is no
token, or the expression is invalid for a parenthesis or for the values left over. -/
theorem errorClass_of_evalError {cause : EvalError False}
    (hcause : cause.toFault = .expression error) :
    error.errorClass ∈ [.emptyExpression, .insufficientOperands, .divisionByZero, .domain] ∨
      error.errorClass = .invalidExpression ∧
        (cause = .parenthesis ∨ ∃ count, cause = .leftover count) := by
  cases cause with
  | empty | insufficientOperands => cases hcause; exact .inl (by decide)
  | arithmetic e => cases hcause; cases e <;> exact .inl (by decide)
  | parenthesis => cases hcause; exact .inr ⟨rfl, .inl rfl⟩
  | leftover count => cases hcause; exact .inr ⟨rfl, .inr ⟨count, rfl⟩⟩
  | unlistedOperator name isBare | unlistedFunc name isBare => exact isBare.elim
  | secondOperandMissing op isBare => exact isBare.elim

/-- The errors of the stages after the scan are of other classes than those of the scan. -/
theorem errorClass_ne_of_scan {tokens : List Token}
    (hscan : scan (Text.trim s.toList) = .ok tokens)
    (h : (c.evaluate s).mapError EvaluationError.toFault = .error (.expression error)) :
    error.errorClass ≠ .invalidFunction ∧ error.errorClass ≠ .invalidToken := by
  obtain ⟨cause, hfailure, hcause⟩ := exists_failure_of_toFault h
  have hne {classes : List ErrorClass} (hmem : error.errorClass ∈ classes)
      (hfunction : .invalidFunction ∉ classes) (htoken : .invalidToken ∉ classes) :
      error.errorClass ≠ .invalidFunction ∧ error.errorClass ≠ .invalidToken :=
    ⟨fun h => hfunction (h ▸ hmem), fun h => htoken (h ▸ hmem)⟩
  cases hfailure with
  | form hform =>
    rcases errorClass_of_formFault hform hcause with ⟨fault, hfault, -⟩ | hmem
    · rw [hscan] at hfault
      cases hfault
    · exact hne hmem (by decide) (by decide)
  | value =>
    rcases errorClass_of_evalError hcause with hmem | ⟨hclass, -⟩
    · exact hne hmem (by decide) (by decide)
    · rw [hclass]
      exact ⟨nofun, nofun⟩
  | rounding => cases hcause

/-- Invalid expressions are those that leave more than one value. -/
theorem two_values_of_invalidExpression
    (h : (c.evaluate s).mapError EvaluationError.toFault = .error (.expression error))
    (hclass : error.errorClass = .invalidExpression) :
    ∃ form values, c.postfixForm s = .ok form ∧
      form.foldlM (Postfix.apply c.logBase) [] = .ok values ∧ 2 ≤ values.length := by
  obtain ⟨cause, hfailure, hcause⟩ := exists_failure_of_toFault h
  cases hfailure with
  | form hform =>
    rcases errorClass_of_formFault hform hcause with ⟨-, -, hmem⟩ | hmem
    · rw [hclass] at hmem
      exact absurd hmem (by decide)
    · rw [hclass] at hmem
      exact absurd hmem (by decide)
  | @value form cause hform hvalue =>
    rcases errorClass_of_evalError hcause with hmem | ⟨-, rfl | ⟨count, rfl⟩⟩
    · rw [hclass] at hmem
      exact absurd hmem (by decide)
    · -- the parser leaves no parenthesis
      cases isFallback_eq_false_of_value (isParen_eq_false_of_postfixForm hform) hvalue
    · obtain ⟨values, hvalues, hlength, hcount⟩ := Postfix.two_le_of_leftover hvalue
      exact ⟨form, values, hform, hvalues, hlength ▸ hcount⟩
  | rounding => cases hcause

/-- As tokens of any name, the tokens of a text meet no name that no table lists. -/
theorem no_fallback_of_toBare (base : LogBase) (tokens : List Token) :
    (∀ name isBare, Postfix.ofInfix (tokens.map toBare) ≠ .error (.unlisted name isBare)) ∧
    ∀ form cause, Postfix.ofInfix (tokens.map toBare) = .ok form →
      Postfix.value base form = .error cause → cause.isFallback = false := by
  rw [Postfix.ofInfix_map_toBare]
  cases hform : Postfix.ofInfix tokens with
  | error cause =>
    refine ⟨fun name isBare h => ?_, nofun⟩
    cases cause with
    | missingOperand | strayClosing | unclosedOpening => cases h
    | unlisted name isBare => exact isBare.elim
  | ok form =>
    refine ⟨nofun, ?_⟩
    rintro _ cause ⟨⟩ hvalue
    rw [Postfix.value_map_toBare] at hvalue
    cases hlisted : Postfix.value base form with
    | ok x => rw [hlisted] at hvalue; cases hvalue
    | error listed =>
      rw [hlisted] at hvalue
      cases hvalue
      rw [isFallback_toBare]
      exact isFallback_eq_false_of_value (Postfix.defers_of_run hform).isParen_eq_false hlisted

/-- **Every evaluation ends safely**, whatever the text, none included, and the options. -/
theorem endsSafely (c : Calculator) (expression : Option String) :
    EndsSafely c (expression.getD "") where
  outcome := outcome_of_evaluate c _
  overflow := overflows_iff
  errorClass_ne _ _ := errorClass_ne_of_scan
  two_values _ := two_values_of_invalidExpression
  isParen_eq_false _ := isParen_eq_false_of_postfixForm
  no_fallback tokens _ := no_fallback_of_toBare c.logBase tokens

end

/-- Too many places to the left of the point overflow as well. -/
theorem one_overflows_left_of_point :
    let c : Calculator := ⟨.natural, -((Nat.pow 10 309 : Nat) : Int), true⟩
    ofOptions ⟨none, some (-((Nat.pow 10 309 : Nat) : Int)), none⟩ = .ok c ∧ Overflows c "1" ∧
      ¬ (Overflows c "1" ↔ 309 ≤ c.places ∧ HasFiniteValue c "1") := by
  intro c
  have hone : Decimal.literal? ['1'] = some (.finite false Binary64.one) := by decide +kernel
  have hfinite : Binary64.ofFloat (Binary64.finite false Binary64.one).toFloat =
      .finite false Binary64.one := by decide +kernel
  have hscan : scan (Text.trim "1".toList) =
      .ok [.number (Binary64.finite false Binary64.one).toFloat "1"] := by
    have hfirst : first? true (Text.trim "1".toList) = some (ofLiteral ['1'], []) := rfl
    rw [ofLiteral_eq hone] at hfirst
    exact scanFrom_eq_ok_iff.2 (.token hfirst (.done rfl))
  have hform : c.postfixForm "1" = .ok _ :=
    postfixForm_eq_ok_iff.2 ⟨_, hscan, List.cons_ne_nil _ _, rfl⟩
  have hplaces : c.places ≤ -(Binary64.overflowFrom : Int) := by decide +kernel
  have hoverflows : Overflows c "1" :=
    overflows_iff.2 ⟨.inr hplaces, _, _, false, Binary64.one, hform, rfl, hfinite⟩
  have hfew : ¬ 309 ≤ c.places := by decide +kernel
  exact ⟨rfl, hoverflows, fun h => hfew (h.1 hoverflows).1⟩

end DeskCalc.Calculator
