import DeskCalc.Postfix

/-!
# Syntax trees and their notation

An expression as a tree of operators and functions over numbers, with its value by recursion and its
postfix form by recursion (`postorder`). `foldlM_apply_postorder` says that reading the postfix form
of a tree puts the value of the tree on the values that were there, or stops with the error of its
first operation without a value; `value_postorder` is the case of a whole expression.

`Infix.Writes` says which lists of tokens write which tree. The grammar has four levels, from sums
down to units. Sums and products group to the left and powers to the right, a function takes the
unit after it, and parentheses take any sum for a unit. Nothing in it knows how postfix forms are
made.
-/

namespace DeskCalc

/-- A syntax tree. -/
inductive Expr
  /-- A number and the text that writes it. -/
  | number (value : Float) (text : String)
  | unary (f : Func) (argument : Expr)
  | binary (op : Operator) (left right : Expr)

namespace Expr

/-- The value of a tree: of two subtrees the left one comes first. -/
def value (base : LogBase) : Expr → Except ArithmeticError Float
  | number value _ => .ok value
  | unary f argument => do f.apply base (← argument.value base)
  | binary op left right => do op.apply (← left.value base) (← right.value base)

/-- Operands first: the postfix form of a tree. -/
def postorder : Expr → List Token
  | number value text => [.number value text]
  | unary f argument => argument.postorder ++ [.func f]
  | binary op left right => left.postorder ++ right.postorder ++ [.operator op]

theorem postorder_ne_nil (e : Expr) : e.postorder ≠ [] := by
  cases e <;> simp [postorder]

/-- Reading the postfix form of a tree adds its value. -/
theorem foldlM_apply_postorder (base : LogBase) (e : Expr) (values : List Float) :
    e.postorder.foldlM (Postfix.apply base) values =
      ((e.value base).mapError EvalError.arithmetic).map (· :: values) := by
  induction e generalizing values with
  | number v text => rfl
  | unary f argument ih =>
    rw [postorder, List.foldlM_append, ih, value]
    cases argument.value base with
    | error e => rfl
    | ok x =>
      simp only [List.foldlM_cons, List.foldlM_nil, bind_pure]
      rfl
  | binary op left right ihl ihr =>
    rw [postorder, List.foldlM_append, List.foldlM_append, ihl, value]
    cases left.value base with
    | error e => rfl
    | ok x =>
      change (right.postorder.foldlM (Postfix.apply base) (x :: values) >>= _) = _
      rw [ihr]
      cases right.value base with
      | error e => rfl
      | ok y =>
        simp only [List.foldlM_cons, List.foldlM_nil, bind_pure]
        rfl

/-- The value of the postfix form of a tree is the value of the tree. -/
theorem value_postorder (base : LogBase) (e : Expr) :
    Postfix.value base e.postorder = (e.value base).mapError EvalError.arithmetic := by
  have notEmpty : e.postorder.isEmpty = false := by
    rw [List.isEmpty_eq_false_iff]
    exact e.postorder_ne_nil
  rw [Postfix.value, notEmpty, foldlM_apply_postorder]
  cases e.value base <;> rfl

end Expr

namespace Infix

/-- The levels of the grammar, the loosest first. -/
inductive Level
  | sum | product | power | unit
  deriving DecidableEq

/-- The level at whose head an operator stands. -/
def levelOf : Operator → Level
  | .add | .sub => .sum
  | .mul | .div => .product
  | .pow => .power

/-- The tokens are a sentence of the level, and the tree is what it means. -/
inductive Writes : Level → List Token → Expr → Prop
  | number (value : Float) (text : String) :
    Writes .unit [.number value text] (.number value text)
  | parenthesized {tokens : List Token} {e : Expr} (inner : Writes .sum tokens e) :
    Writes .unit (.paren true :: tokens ++ [.paren false]) e
  | func (f : Func) {tokens : List Token} {e : Expr} (argument : Writes .unit tokens e) :
    Writes .unit (.func f :: tokens) (.unary f e)
  | unit {tokens : List Token} {e : Expr} (inner : Writes .unit tokens e) :
    Writes .power tokens e
  | pow {left right : List Token} {a b : Expr} (base : Writes .unit left a)
    (exponent : Writes .power right b) :
    Writes .power (left ++ .operator .pow :: right) (.binary .pow a b)
  | power {tokens : List Token} {e : Expr} (inner : Writes .power tokens e) :
    Writes .product tokens e
  | product {op : Operator} (level : levelOf op = .product) {left right : List Token} {a b : Expr}
    (first : Writes .product left a) (second : Writes .power right b) :
    Writes .product (left ++ .operator op :: right) (.binary op a b)
  | term {tokens : List Token} {e : Expr} (inner : Writes .product tokens e) :
    Writes .sum tokens e
  | sum {op : Operator} (level : levelOf op = .sum) {left right : List Token} {a b : Expr}
    (first : Writes .sum left a) (second : Writes .product right b) :
    Writes .sum (left ++ .operator op :: right) (.binary op a b)

/-- The tokens are a whole expression for the tree. -/
abbrev Denotes (tokens : List Token) (e : Expr) : Prop :=
  Writes .sum tokens e

theorem Writes.ne_nil {level : Level} {tokens : List Token} {e : Expr}
    (h : Writes level tokens e) : tokens ≠ [] := by
  induction h with
  | number | parenthesized | func | pow | product | sum => simp
  | unit _ ih | power _ ih | term _ ih => exact ih

/-- Every tree has a sentence: its operands are written between parentheses. -/
theorem exists_writes (e : Expr) : ∃ tokens, Writes .unit tokens e := by
  induction e with
  | number value text => exact ⟨_, .number value text⟩
  | unary f argument ih =>
    obtain ⟨tokens, h⟩ := ih
    exact ⟨_, .func f h⟩
  | binary op left right ihl ihr =>
    obtain ⟨ls, hl⟩ := ihl
    obtain ⟨rs, hr⟩ := ihr
    have inner : Writes .sum (ls ++ .operator op :: rs) (.binary op left right) := by
      cases h : levelOf op with
      | sum => exact .sum h (.term (.power (.unit hl))) (.power (.unit hr))
      | product => exact .term (.product h (.power (.unit hl)) (.unit hr))
      | power =>
        have : op = .pow := by cases op <;> simp_all [levelOf]
        subst this
        exact .term (.power (.pow hl (.unit hr)))
      | unit => cases op <;> simp [levelOf] at h
    exact ⟨_, .parenthesized inner⟩

end Infix

end DeskCalc
