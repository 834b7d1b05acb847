import DeskCalc.Expr

/-!
# Where a tree has no value

A tree has a value unless some operation in it has none, and the error is that of the first such
operation, operands before operators and left before right (`firstFailure?_eq`).
-/

namespace DeskCalc.Expr

/-- The subtrees in the order of the postfix form: those of the operands, then the tree itself. -/
def subtrees : Expr → List Expr
  | number value text => [number value text]
  | unary f argument => argument.subtrees ++ [unary f argument]
  | binary op left right => left.subtrees ++ right.subtrees ++ [binary op left right]

/-- Why the operation at the root has no value, where its operands have values. -/
def failure? (base : LogBase) : Expr → Option ArithmeticError
  | number .. => none
  | unary f argument =>
    match argument.value base with
    | .ok x =>
      match f.apply base x with
      | .ok _ => none
      | .error cause => some cause
    | .error _ => none
  | binary op left right =>
    match left.value base, right.value base with
    | .ok x, .ok y =>
      match op.apply x y with
      | .ok _ => none
      | .error cause => some cause
    | _, _ => none

/-- The error of the first operation that has no value. -/
def firstFailure? (base : LogBase) (e : Expr) : Option ArithmeticError :=
  e.subtrees.findSome? (failure? base)

/-- **A tree fails with the error of its first failing operation.** -/
theorem firstFailure?_eq (base : LogBase) (e : Expr) :
    e.firstFailure? base =
      match e.value base with
      | .ok _ => none
      | .error cause => some cause := by
  induction e with
  | number value text => rfl
  | unary f argument ih =>
    rw [firstFailure?] at ih ⊢
    rw [subtrees, List.findSome?_append, ih, value]
    cases hx : argument.value base with
    | error cause => rfl
    | ok x =>
      rw [List.findSome?_singleton, failure?, hx]
      rfl
  | binary op left right ihl ihr =>
    rw [firstFailure?] at ihl ihr ⊢
    rw [subtrees, List.findSome?_append, List.findSome?_append, ihl, ihr, value]
    cases hx : left.value base with
    | error cause => rfl
    | ok x =>
      cases hy : right.value base with
      | error cause => rfl
      | ok y =>
        rw [List.findSome?_singleton, failure?, hx, hy]
        rfl

/-- A tree has a value when none of its operations fails. -/
theorem firstFailure?_eq_none_iff {base : LogBase} {e : Expr} :
    e.firstFailure? base = none ↔ ∃ x, e.value base = .ok x := by
  rw [firstFailure?_eq]
  cases e.value base with
  | ok x => simp
  | error cause => simp

/-- A tree that fails has the error of its first failing operation. -/
theorem firstFailure?_eq_some_iff {base : LogBase} {e : Expr} {cause : ArithmeticError} :
    e.firstFailure? base = some cause ↔ e.value base = .error cause := by
  rw [firstFailure?_eq]
  cases e.value base with
  | ok x => simp
  | error c => simp

end DeskCalc.Expr
