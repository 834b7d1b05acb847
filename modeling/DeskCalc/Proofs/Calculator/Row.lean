import DeskCalc.Calculator
import DeskCalc.Proofs.Calculator.Acceptance

/-!
# Rows

With the places of the settings an expression has a value or an error that the user sees
(`exists_answer`), so every expression has a row and none of them ends the batch. What the
calculator logs on the way is no warning (`level_of_mem_rowTrace`).
-/

namespace DeskCalc.Calculator

/-- What the user sees of an evaluation: a value, or an error of the expression. -/
inductive Answer (c : Calculator) (s : String) : Except ExpressionError Float → Prop
  | value {x : Float} (h : c.evaluate s = .ok x) : Answer c s (.ok x)
  | error {cause : EvaluationError} {e : ExpressionError} (h : c.evaluate s = .error cause)
    (hcause : cause.toExpressionError? = some e) : Answer c s (.error e)

section
variable {c : Calculator} {s : String} {outcome : Except ExpressionError Float}
  {r : Log.Record}

/-- Every expression has an answer if its value can be rounded. -/
theorem exists_answer (hplaces : c.places = standard.places) (s : String) :
    ∃ outcome, Answer c s outcome := by
  cases hevaluate : c.evaluate s with
  | ok x => exact ⟨_, .value hevaluate⟩
  | error cause =>
    have hcause (scale : Binary64.ScaleError) : cause ≠ .rounding scale := by
      rintro rfl
      cases failure_of_evaluate hevaluate with
      | form h => cases h
      | @rounding _ x _ _ _ h =>
        obtain ⟨y, hy⟩ := exists_rounded_standard x
        rw [hplaces, hy] at h
        cases h
    obtain ⟨e, he⟩ := exists_toExpressionError? hcause
    exact ⟨_, .error hevaluate he⟩

/-- The answer is what the row of the expression holds. -/
theorem Answer.row (h : Answer c s outcome) : c.row (some s) = .ok ⟨some s, outcome⟩ := by
  cases h with
  | value h => rw [Calculator.row, Option.getD_some, h]
  | error h hcause => rw [Calculator.row, Option.getD_some, h]; simp only [hcause]

/-! ## What is logged -/

theorem level_scanRecord (text : String) (tokens : Except ScanError (List Token)) :
    (scanRecord text tokens).level = .debug := by
  rcases tokens with (_ | _ | _) | _ <;> rfl

theorem level_of_mem_formRecord? {form : Except (ParseError False) (List Token)}
    (h : r ∈ (formRecord? form).toList) : r.level = .debug := by
  rw [Option.mem_toList] at h
  unfold formRecord? at h
  split at h <;> cases h <;> rfl

theorem level_of_mem_valueRecord? {value : Except (EvalError False) Float}
    (h : r ∈ (valueRecord? value).toList) : r.level = .debug := by
  rw [Option.mem_toList] at h
  unfold valueRecord? at h
  split at h <;> cases h <;> rfl

/-- Bringing an expression into postfix form is no reason for a warning. -/
theorem level_of_mem_formTrace (h : r ∈ c.formTrace s) : r.level = .debug := by
  rw [formTrace] at h
  dsimp only at h
  split at h
  · rw [List.mem_singleton.1 h]
  rcases List.mem_cons.1 h with rfl | h
  · exact level_scanRecord _ _
  split at h
  · cases h
  · cases h
  · exact level_of_mem_formRecord? h

/-- Nor is taking its value. -/
theorem level_of_mem_trace (h : r ∈ c.trace s) : r.level = .debug := by
  rcases List.mem_append.1 h with h | h
  · exact level_of_mem_formTrace h
  split at h
  · cases h
  rcases List.mem_append.1 h with h | h
  · exact level_of_mem_valueRecord? h
  split at h
  · cases h
  · rw [List.mem_singleton.1 h]

/-- Nor is its failure, which is told for information. -/
theorem level_of_mem_rowTrace (h : r ∈ c.rowTrace s) : r.level = .debug ∨ r.level = .info := by
  rcases List.mem_append.1 h with h | h
  · exact .inl (level_of_mem_trace h)
  split at h
  · cases h
  split at h
  · cases h
  · rw [List.mem_singleton.1 h]
    exact .inr rfl

end

end DeskCalc.Calculator
