import DeskCalc.Proofs.Calculator.Stages
import DeskCalc.Proofs.Postfix.Renaming

/-!
# The base of the logarithm

Of all functions `log` alone asks for the base, and in base e it computes what `ln` computes and
refuses what `ln` refuses, in the same words. So an expression in base e means what it means in any
base after `ln` has taken the place of `log` (`roundedValue_logAsLn`), and the tokens may be
replaced before they are brought into postfix form or afterwards (`ofInfix_logAsLn`). An expression
without `log` is left alone by the replacement: it has one outcome whatever the base
(`evaluate_logBase`).

The errors of the evaluation are compared as the user sees them. Within the evaluation a missing
operand has the name of its function, which is not the same for `log` and for `ln`.
-/

namespace DeskCalc

/-- `ln` in the place of `log`. -/
def Func.logAsLn : Func → Func
  | log => ln
  | f => f

/-- The token with `ln` in the place of `log`. -/
def GenToken.logAsLn {bare : Prop} : GenToken bare → GenToken bare :=
  map Func.logAsLn id

/-- In any base `ln` computes what `log` computes in base e. -/
theorem Func.apply_logAsLn (base : LogBase) (f : Func) (x : Float) :
    f.logAsLn.apply base x = f.apply .natural x := by
  cases f <;> rfl

namespace Postfix

/-- The value of a postfix form, rounded if a number of places is given. -/
def roundedValue {bare : Prop} (base : LogBase) (places : Option Int)
    (form : List (GenToken bare)) : Except Fault Float := do
  let x ← (value base form).mapError EvalError.toFault
  match places with
  | some places => (rounded places x).mapError .rounding
  | none => .ok x

section
variable {bare : Prop} {tokens form : List (GenToken bare)}

theorem apply_logAsLn (base : LogBase) (values : List Float) (t : GenToken bare) :
    (apply base values t.logAsLn).mapError EvalError.toFault =
      (apply .natural values t).mapError EvalError.toFault := by
  cases t with
  | number | operator | paren => rfl
  | func f =>
    cases values with
    | nil => rfl
    | cons x below => simp only [apply, GenToken.logAsLn, GenToken.map, f.apply_logAsLn base]
  | unlisted kind name isBare => cases kind <;> rfl

/-- In any base a form with `ln` in the place of `log` has the value of the form in base e. -/
theorem roundedValue_logAsLn (base : LogBase) (places : Option Int)
    (form : List (GenToken bare)) :
    roundedValue base places (form.map GenToken.logAsLn) = roundedValue .natural places form := by
  have hvalue : (value base (form.map GenToken.logAsLn)).mapError EvalError.toFault =
      (value .natural form).mapError EvalError.toFault :=
    mapError_value rfl (fun _ => rfl) (apply_logAsLn base) form
  rw [roundedValue, roundedValue, hvalue]

/-- `ln` may take the place of `log` before the tokens are brought into postfix form or
afterwards. -/
theorem ofInfix_logAsLn (tokens : List (GenToken bare)) :
    ofInfix (tokens.map GenToken.logAsLn) =
      (ofInfix tokens).map (List.map GenToken.logAsLn) := by
  have hid : ParseError.map (id : bare → bare) = id := funext ParseError.map_id
  rw [GenToken.logAsLn, ofInfix_map, hid, mapError_id]

/-- Tokens without `log` are left alone. -/
theorem map_logAsLn (h : .func .log ∉ tokens) : tokens.map GenToken.logAsLn = tokens := by
  have hkept : ∀ t ∈ tokens, t.logAsLn = t := by
    intro t ht
    cases t with
    | number | operator | paren | unlisted => rfl
    | func f =>
      cases f with
      | sin | cos | tan | sqrt | ln => rfl
      | log => exact absurd ht h
  rw [List.map_congr_left hkept, List.map_id']

/-- So is their postfix form. -/
theorem map_logAsLn_of_ofInfix (h : .func .log ∉ tokens) (hform : ofInfix tokens = .ok form) :
    form.map GenToken.logAsLn = form := by
  have hcommutes := ofInfix_logAsLn tokens
  rw [map_logAsLn h, hform] at hcommutes
  exact (Except.ok.inj hcommutes).symm

end

end Postfix

namespace Calculator

open Postfix Token

section
variable {c : Calculator} {expression : String}

/-- The outcome of an evaluation is that of the postfix form. -/
theorem mapError_evaluate (c : Calculator) (expression : String) :
    (c.evaluate expression).mapError EvaluationError.toFault =
      (c.postfixForm expression).mapError EvaluationError.toFault >>=
        roundedValue c.logBase (some c.places) := by
  cases hform : c.postfixForm expression with
  | error cause => rw [evaluate_of_postfixForm_error hform]; rfl
  | ok form =>
    rw [evaluate_of_postfixForm hform, valueOf]
    change _ = roundedValue c.logBase (some c.places) form
    rw [roundedValue]
    cases value c.logBase form with
    | error cause => rfl
    | ok x =>
      change ((rounded c.places x).mapError _).mapError _ = (rounded c.places x).mapError _
      cases rounded c.places x <;> rfl

/-- An expression without `log` has one outcome in all bases. -/
theorem evaluate_logBase (base : LogBase)
    (hlog : ∀ tokens, scan (Text.trim expression.toList) = .ok tokens → .func .log ∉ tokens) :
    ({ c with logBase := base }.evaluate expression).mapError EvaluationError.toFault =
      (c.evaluate expression).mapError EvaluationError.toFault := by
  have hsame : { c with logBase := base }.postfixForm expression = c.postfixForm expression := rfl
  rw [mapError_evaluate, mapError_evaluate, hsame]
  cases hform : c.postfixForm expression with
  | error cause => rfl
  | ok form =>
    obtain ⟨tokens, hscan, -, hinfix⟩ := postfixForm_eq_ok_iff.1 hform
    have hkept := map_logAsLn_of_ofInfix (hlog tokens hscan) hinfix
    change roundedValue base (some c.places) form = roundedValue c.logBase (some c.places) form
    rw [← hkept, roundedValue_logAsLn, roundedValue_logAsLn]

/-- **The base matters to `log` only, and in base e `log` is `ln`.** -/
theorem logBase_matters_to_log_only :
    (∀ (bare : Prop) (tokens : List (GenToken bare)),
      ofInfix (tokens.map GenToken.logAsLn) =
        (ofInfix tokens).map (List.map GenToken.logAsLn)) ∧
    (∀ (bare : Prop) (base : LogBase) (places : Option Int) (form : List (GenToken bare)),
      roundedValue .natural places form =
        roundedValue base places (form.map GenToken.logAsLn)) ∧
    ∀ (c : Calculator) (base : LogBase) (expression : String),
      (∀ tokens, scan (Text.trim expression.toList) = .ok tokens → .func .log ∉ tokens) →
      ({ c with logBase := base }.evaluate expression).mapError EvaluationError.toFault =
        (c.evaluate expression).mapError EvaluationError.toFault := by
  refine ⟨fun bare tokens => ofInfix_logAsLn tokens, ?_, ?_⟩
  · intro bare base places form
    exact (roundedValue_logAsLn base places form).symm
  · intro c base expression hlog
    exact evaluate_logBase base hlog

/-- The logarithm of zero is refused in the same words. -/
theorem ln_of_zero_in_two_bases :
    (∀ tokens, scan (Text.trim "ln(0)".toList) = .ok tokens → .func .log ∉ tokens) ∧
      ({ standard with logBase := .common }.evaluate "ln(0)").mapError EvaluationError.toFault =
        (standard.evaluate "ln(0)").mapError EvaluationError.toFault := by
  have hlog : ∀ tokens, scan (Text.trim "ln(0)".toList) = .ok tokens → .func .log ∉ tokens := by
    intro tokens htokens
    have hsome : (Decimal.literal? ['0']).isSome = true := rfl
    obtain ⟨zero, hzero⟩ := Option.isSome_iff_exists.1 hsome
    -- the text from its end
    have closing : Reads false ")".toList _ := .token rfl (.done rfl)
    have number : Reads true "0)".toList _ := .token (first?_of_literal? hzero rfl) closing
    have group : Reads false "(0)".toList _ := .token rfl number
    have whole : Reads true "ln(0)".toList _ := .token rfl group
    have htrim : Text.trim "ln(0)".toList = "ln(0)".toList := rfl
    rw [htrim, scan, scanFrom_eq_ok_iff.2 whole] at htokens
    cases htokens
    simp
  exact ⟨hlog, logBase_matters_to_log_only.2.2 standard .common "ln(0)" hlog⟩

end

end Calculator

end DeskCalc
