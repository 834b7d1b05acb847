import DeskCalc.Proofs.Calculator.Meaning

/-!
# Which expressions have a value

Every sentence whose operations all have one. But not only sentences: the parser looks no further
than the token after an operator, and the postfix form of tokens that are no sentence may be that of
a sentence, as `1 2 +` has the form of `1 + 2`. These are the only other expressions with a value
(`acceptsOnlySentences_iff`); what else is no sentence is refused with an error of the expression.
-/

namespace DeskCalc.Calculator

open Infix Token

/-- The tokens of the expression are a sentence. -/
def IsSentence (s : String) : Prop :=
  ∃ tokens e, scan (Text.trim s.toList) = .ok tokens ∧ Denotes tokens e

/-- The expression has a value only if it is a sentence, and if it is none, then it is refused with
an error that the user sees as one of the expression. -/
structure AcceptsOnlySentences (c : Calculator) (s : String) : Prop where
  /-- What has a value is a sentence. -/
  isSentence_of_value : (∃ x, c.evaluate s = .ok x) → IsSentence s
  /-- What is no sentence is refused. -/
  refused : ¬ IsSentence s →
    ∃ cause error, c.evaluate s = .error cause ∧ cause.toExpressionError? = some error

/-- A token of the expression does not fit the one before it, and still the postfix form is that of
a sentence that has a value. -/
def Disguised (c : Calculator) (s : String) : Prop :=
  ∃ tokens sentence e x, scan (Text.trim s.toList) = .ok tokens ∧ fits true tokens = false ∧
    Denotes sentence e ∧ Postfix.ofInfix tokens = Postfix.ofInfix sentence ∧
    e.value c.logBase = .ok x

section
variable {c : Calculator} {tokens form : List Token} {s : String} {x : Float}

/-- The sentences are the texts that spell one. -/
theorem isSentence_iff_spells :
    IsSentence s ↔ ∃ tokens e, Denotes tokens e ∧ Spells true tokens s.toList := by
  refine exists_congr fun tokens => exists_congr fun e => ?_
  rw [scan_trim_eq_ok_iff, and_comm]
  exact and_congr_right fun hsentence => scan_eq_ok_iff_spells hsentence

/-- Tokens with a postfix form are a sentence when neighbours fit. -/
theorem isSentence_iff_fits (hscan : scan (Text.trim s.toList) = .ok tokens)
    (hform : Postfix.ofInfix tokens = .ok form) : IsSentence s ↔ fits true tokens = true := by
  have hbalanced := (Postfix.exists_ofInfix_iff.1 ⟨form, hform⟩).2
  constructor
  · rintro ⟨other, e, hother, hsentence⟩
    rw [hscan] at hother
    cases hother
    exact (exists_denotes_iff.1 ⟨e, hsentence⟩).1
  · intro hfits
    obtain ⟨e, hsentence⟩ := exists_denotes_iff.2 ⟨hfits, hbalanced⟩
    exact ⟨tokens, e, hscan, hsentence⟩

/-- A postfix form with a value is that of a sentence. -/
theorem exists_denotes_of_value (h : Postfix.value c.logBase form = .ok x) :
    ∃ sentence e, Denotes sentence e ∧ Postfix.ofInfix sentence = .ok form ∧
      e.value c.logBase = .ok x := by
  obtain ⟨e, rfl, hvalue⟩ := Postfix.exists_postorder_of_value_eq_ok h
  obtain ⟨sentence, hunit⟩ := exists_writes e
  have hsentence : Denotes sentence e := .term (.power (.unit hunit))
  exact ⟨sentence, e, hsentence, ofInfix_of_denotes hsentence, hvalue⟩

/-- A disguised expression is worth what the sentence is worth. -/
theorem Disguised.evaluate_eq (h : Disguised c s) :
    ¬ IsSentence s ∧ ∃ x, c.evaluate s = (rounded c.places x).mapError .rounding := by
  obtain ⟨tokens, sentence, e, x, hscan, hfits, hsentence, hsame, hvalue⟩ := h
  rw [ofInfix_of_denotes hsentence] at hsame
  have hne : tokens ≠ [] := by
    rintro rfl
    injection hsame with hsame
    exact e.postorder_ne_nil hsame.symm
  refine ⟨fun his => ?_, x, ?_⟩
  · rw [isSentence_iff_fits hscan hsame, hfits] at his
    cases his
  · rw [evaluate_of_postfixForm (postfixForm_eq_ok_iff.2 ⟨tokens, hscan, hne, hsame⟩),
      valueOf_postorder hvalue]

/-- What is neither a sentence nor disguised is refused. -/
theorem refused_of_not_disguised (hsentence : ¬ IsSentence s) (h : ¬ Disguised c s) :
    ∃ cause error, c.evaluate s = .error cause ∧ cause.toExpressionError? = some error := by
  cases hpostfix : c.postfixForm s with
  | error cause =>
    have hcause (scale : Binary64.ScaleError) : cause ≠ .rounding scale := by
      rintro rfl
      exact postfixForm_ne_rounding scale hpostfix
    obtain ⟨error, herror⟩ := exists_toExpressionError? hcause
    exact ⟨cause, error, by rw [evaluate, hpostfix]; rfl, herror⟩
  | ok form =>
    rw [evaluate_of_postfixForm hpostfix, valueOf]
    obtain ⟨tokens, hscan, hne, hform⟩ := postfixForm_eq_ok_iff.1 hpostfix
    cases hvalue : Postfix.value c.logBase form with
    | error cause =>
      have hcause (scale : Binary64.ScaleError) :
          EvaluationError.value cause ≠ .rounding scale := by
        intro h
        cases h
      obtain ⟨error, herror⟩ := exists_toExpressionError? hcause
      exact ⟨_, error, rfl, herror⟩
    | ok x =>
      obtain ⟨sentence, e, hdenotes, hsame, hx⟩ := exists_denotes_of_value hvalue
      refine absurd ⟨tokens, sentence, e, x, hscan, ?_, hdenotes, hform.trans hsame.symm, hx⟩ h
      rw [isSentence_iff_fits hscan hform, Bool.not_eq_true] at hsentence
      exact hsentence

/-- **Only sentences are accepted, but for the disguised ones.** -/
theorem acceptsOnlySentences_iff (c : Calculator) (s : String) :
    AcceptsOnlySentences c s ↔ ¬ Disguised c s := by
  constructor
  · rintro ⟨-, hrefused⟩ hdisguised
    obtain ⟨hsentence, x, hevaluate⟩ := hdisguised.evaluate_eq
    obtain ⟨cause, error, hcause, herror⟩ := hrefused hsentence
    rw [hevaluate] at hcause
    -- what is left to fail is the rounding, which is no error of the expression
    cases hrounded : rounded c.places x with
    | ok y => rw [hrounded] at hcause; cases hcause
    | error scale => rw [hrounded] at hcause; cases hcause; cases herror
  · intro h
    refine ⟨fun ⟨x, hx⟩ => ?_, fun hsentence => refused_of_not_disguised hsentence h⟩
    refine Classical.byContradiction fun hsentence => ?_
    obtain ⟨cause, -, hcause, -⟩ := refused_of_not_disguised hsentence h
    rw [hx] at hcause
    cases hcause

/-- The places of the settings are not too many to round to. -/
theorem exists_rounded_standard (x : Float) : ∃ y, rounded standard.places x = .ok y := by
  have hexponent : ¬ Binary64.limit ≤
      Binary64.nearest (standard.places.natAbs * Binary64.one) 1 := by decide +kernel
  have hpower : ¬ Binary64.greatestPower < standard.places := by decide
  rw [rounded]
  cases Binary64.ofFloat x with
  | nan | infinite => exact ⟨_, rfl⟩
  | finite negative units =>
    rw [Binary64.roundTo, if_neg hexponent, if_neg hpower]
    dsimp only
    split
    · exact ⟨_, rfl⟩
    split <;> exact ⟨_, rfl⟩

/-- An operator after both of its operands is not refused. -/
theorem trailing_operator_has_value :
    (∃ x, standard.evaluate "1 2 +" = .ok x) ∧ ¬ AcceptsOnlySentences standard "1 2 +" := by
  obtain ⟨one, hone⟩ := Option.isSome_iff_exists.1 (show (Decimal.literal? ['1']).isSome from rfl)
  obtain ⟨two, htwo⟩ := Option.isSome_iff_exists.1 (show (Decimal.literal? ['2']).isSome from rfl)
  have hscan : scan (Text.trim "1 2 +".toList) =
      .ok [.number one.toFloat "1", .number two.toFloat "2", .operator .add] := by
    have hfirst : first? true (Text.trim "1 2 +".toList) =
      some (ofLiteral ['1'], [' ', '2', ' ', '+']) := rfl
    have hsecond : first? false [' ', '2', ' ', '+'] = some (ofLiteral ['2'], [' ', '+']) := rfl
    have hthird : first? false [' ', '+'] = some (.ok (.operator .add), []) := rfl
    rw [ofLiteral_eq hone] at hfirst
    rw [ofLiteral_eq htwo] at hsecond
    exact scanFrom_eq_ok_iff.2 (.token hfirst (.token hsecond (.token hthird (.done rfl))))
  have hform : Postfix.ofInfix ([.number one.toFloat "1", .number two.toFloat "2",
      .operator .add] : List Token) =
    .ok [.number one.toFloat "1", .number two.toFloat "2", .operator .add] := rfl
  have hvalue : ∃ x, standard.evaluate "1 2 +" = .ok x := by
    obtain ⟨y, hy⟩ := exists_rounded_standard (one.toFloat + two.toFloat)
    have hpostfix :=
      (postfixForm_eq_ok_iff (c := standard)).2 ⟨_, hscan, List.cons_ne_nil _ _, hform⟩
    refine ⟨y, ?_⟩
    rw [evaluate_of_postfixForm hpostfix, valueOf_of_value_eq_ok rfl, hy]
    rfl
  refine ⟨hvalue, fun h => ?_⟩
  have hsentence := h.isSentence_of_value hvalue
  rw [isSentence_iff_fits hscan hform] at hsentence
  cases hsentence

end

end DeskCalc.Calculator
