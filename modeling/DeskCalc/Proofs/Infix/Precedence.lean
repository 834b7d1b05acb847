import DeskCalc.Expr
import DeskCalc.Proofs.Postfix.Listing
import DeskCalc.Proofs.Postfix.Run

/-!
# The postfix form of a sentence

The operator stack against the grammar. A sentence of a level is read from any stack and before any
tokens, as long as the operators of the level leave the top of the stack where it is (`Guards`) and
the next token leaves none of them (`Ends`): then the run writes the postfix form of the tree and
goes on as if the sentence had not been there (`run_writes`). The two conditions are what the levels
of the grammar say about precedence and associativity: an operand of an operator meets the first
because the operator is on the stack, and the second because of what may follow it.

A whole expression is read from the empty stack and before no token, so its postfix form is that of
its tree, and the tokens have no other tree.
-/

namespace DeskCalc.Infix

open Postfix

/-- The least precedence of the operators that stand in a sentence of the level outside its
parentheses. A unit has none. -/
def Level.floor : Level → Nat
  | .sum => 2
  | .product => 3
  | .power => 4
  | .unit => 5

/-- No operator of the level releases the item on the top of the stack. -/
def Guards (level : Level) (held : List (Held False)) : Prop :=
  ∀ op : Operator, level.floor ≤ op.precedence → ∀ x ∈ held.head?, x.precedes op = false

/-- The next token is the end, a closing parenthesis, or an operator that leaves no operator of the
level on the stack. -/
def Ends (level : Level) (rest : List Token) : Prop :=
  ∀ t ∈ rest.head?, t = .paren false ∨ ∃ op, t = .operator op ∧
    ∀ held : Operator, level.floor ≤ held.precedence →
      (.operator held : Held False).precedes op = true

section
variable {level : Level} {held : List (Held False)} {tokens rest : List Token} {e : Expr}

theorem floor_levelOf (op : Operator) : (levelOf op).floor = op.precedence := by
  cases op <;> rfl

/-- A sentence is read where a sentence of a looser level may stand. -/
theorem Guards.mono {tighter : Level} (h : Guards level held)
    (hle : level.floor ≤ tighter.floor) : Guards tighter held :=
  fun op hop => h op (Nat.le_trans hle hop)

/-- What ends a sentence ends a sentence of a tighter level. -/
theorem Ends.mono {tighter : Level} (h : Ends level rest)
    (hle : level.floor ≤ tighter.floor) : Ends tighter rest := by
  intro t ht
  rcases h t ht with h | ⟨op, rfl, hop⟩
  · exact .inl h
  · exact .inr ⟨op, rfl, fun held hheld => hop held (Nat.le_trans hle hheld)⟩

theorem guards_unit (held : List (Held False)) : Guards .unit held := by
  intro op hop
  cases op <;> simp [Level.floor, Operator.precedence] at hop

theorem guards_opening (level : Level) (held : List (Held False)) :
    Guards level (.opening :: held) := by
  rintro op - x ⟨⟩
  rfl

theorem ends_nil (level : Level) : Ends level [] := nofun

theorem ends_closing (level : Level) (rest : List Token) : Ends level (.paren false :: rest) := by
  rintro t ⟨⟩
  exact .inl rfl

/-- What ends a sentence does not leave a function on the stack. -/
theorem Ends.released_func (h : Ends level rest) (f : Func) : Released (.func f) rest := by
  refine ⟨rfl, fun t ht => ?_⟩
  rcases h t ht with h | ⟨op, h, -⟩
  · exact .inl h
  · exact .inr ⟨op, h, rfl⟩

/-- What ends a sentence leaves no operator of its level on the stack. -/
theorem Ends.released_operator (h : Ends level rest) {op : Operator}
    (hop : level.floor ≤ op.precedence) : Released (.operator op) rest := by
  refine ⟨rfl, fun t ht => ?_⟩
  rcases h t ht with h | ⟨next, h, hnext⟩
  · exact .inl h
  · exact .inr ⟨next, h, hnext op hop⟩

/-- An operand starts at the first token of a sentence. -/
theorem Writes.startsNoOperand_eq_false (h : Writes level tokens e) (rest : List Token) :
    (tokens ++ rest).head?.any startsNoOperand = false := by
  induction h generalizing rest with
  | number | parenthesized | func => rfl
  | unit _ ih | power _ ih | term _ ih => exact ih rest
  | pow _ _ ih _ | product _ _ _ ih _ | sum _ _ _ ih _ =>
    rw [List.append_assoc]
    exact ih _

/-- An operator between its operands: the left one is read before the operator waits, the right one
while it waits, and the operator is written after both. -/
theorem run_binary {op : Operator} {level : Level} {left right : List Token} {a b : Expr}
    (hw : Writes level right b) (hguards : Guards (levelOf op) held)
    (hends : Ends (levelOf op) rest)
    (hleft : run held (left ++ .operator op :: (right ++ rest)) =
      writing a.postorder (run held (.operator op :: (right ++ rest))))
    (hright : run (.operator op :: held) (right ++ rest) =
      writing b.postorder (run (.operator op :: held) rest)) :
    run held (left ++ .operator op :: right ++ rest) =
      writing (Expr.binary op a b).postorder (run held rest) := by
  have hop : (levelOf op).floor ≤ op.precedence := Nat.le_of_eq (floor_levelOf op)
  have hwaits := run_operator_of_head (hw.startsNoOperand_eq_false rest) (hguards op hop)
  have hwritten : run (.operator op :: held) rest = writing [.operator op] (run held rest) :=
    run_cons_of_released (hends.released_operator hop)
  rw [List.append_assoc, List.cons_append, hleft, hwaits, hright, hwritten, writing_writing,
    writing_writing]
  rfl

/-- The operand of a power is guarded by the operator before it. -/
theorem guards_power_operator (op : Operator) : Guards .power (.operator op :: held) := by
  rintro next hnext x ⟨⟩
  cases next <;> cases op <;>
    simp_all [Level.floor, Operator.precedence, Held.precedes, Operator.rightAssociative]

/-- The right operand of a sum is guarded by the operator before it. -/
theorem guards_product_operator {op : Operator} (h : levelOf op = .sum) :
    Guards .product (.operator op :: held) := by
  rintro next hnext x ⟨⟩
  cases next <;> cases op <;>
    simp_all [levelOf, Level.floor, Operator.precedence, Held.precedes, Operator.rightAssociative]

/-- An operator that groups to the left ends its left operand. -/
theorem ends_operator (op : Operator) (h : levelOf op ≠ .power) (rest : List Token) :
    Ends (levelOf op) (.operator op :: rest) := by
  rintro t ⟨⟩
  refine .inr ⟨op, rfl, fun held hheld => ?_⟩
  have hleft : op.rightAssociative = false := by
    cases op with
    | pow => exact absurd rfl h
    | add | sub | mul | div => rfl
  rw [floor_levelOf] at hheld
  simp [Held.precedes, hleft, hheld]

/-- Every operator ends a unit. -/
theorem ends_unit_operator (op : Operator) (rest : List Token) :
    Ends .unit (.operator op :: rest) := by
  rintro t ⟨⟩
  refine .inr ⟨op, rfl, fun held hheld => ?_⟩
  cases held <;> simp [Level.floor, Operator.precedence] at hheld

/-- A sentence of a level adds the postfix form of its tree, whatever is on the stack below it and
whatever tokens come after it. -/
theorem run_writes (h : Writes level tokens e) (hguards : Guards level held)
    (hends : Ends level rest) :
    run held (tokens ++ rest) = writing e.postorder (run held rest) := by
  induction h generalizing held rest with
  | number value text => exact run_number value text
  | parenthesized inner ih =>
    rw [List.cons_append, List.cons_append, List.append_assoc, List.singleton_append, run_opening,
      ih (guards_opening _ _) (ends_closing _ _), run_closing rfl,
      runAfterGroup_of_released hends.released_func]
    exact congrArg _ (writing_nil _)
  | func f argument ih =>
    rw [List.cons_append, run_func, ih (guards_unit _) hends,
      run_cons_of_released (hends.released_func f), writing_writing]
    rfl
  | unit inner ih => exact ih (guards_unit _) (hends.mono (by decide))
  | power inner ih | term inner ih =>
    exact ih (hguards.mono (by decide)) (hends.mono (by decide))
  | pow base exponent ihl ihr =>
    exact run_binary exponent hguards hends (ihl (guards_unit _) (ends_unit_operator _ _))
      (ihr (guards_power_operator _) hends)
  | @product op hlevel left right a b first second ihl ihr =>
    rw [← hlevel] at hguards hends
    -- the left operand is of the operator's own level, which the operator ends
    have hleft := ends_operator op (by simp [hlevel]) (right ++ rest)
    refine run_binary second hguards hends (ihl (hlevel ▸ hguards) (hlevel ▸ hleft)) ?_
    exact ihr (guards_power_operator _) ((hlevel ▸ hends).mono (by decide))
  | @sum op hlevel left right a b first second ihl ihr =>
    rw [← hlevel] at hguards hends
    have hleft := ends_operator op (by simp [hlevel]) (right ++ rest)
    refine run_binary second hguards hends (ihl (hlevel ▸ hguards) (hlevel ▸ hleft)) ?_
    exact ihr (guards_product_operator hlevel) ((hlevel ▸ hends).mono (by decide))

/-- The postfix form of a whole expression is that of its tree. -/
theorem ofInfix_of_denotes (h : Denotes tokens e) : ofInfix tokens = .ok e.postorder := by
  have hrun : run [] (tokens ++ []) = writing e.postorder (run [] []) :=
    run_writes h (fun _ _ => nofun) (ends_nil _)
  rw [List.append_nil] at hrun
  rw [ofInfix, hrun]
  exact congrArg _ (List.append_nil _)

/-- **A sentence has one tree.** -/
theorem Denotes.unique {a b : Expr} (ha : Denotes tokens a) (hb : Denotes tokens b) : a = b := by
  have h := (ofInfix_of_denotes ha).symm.trans (ofInfix_of_denotes hb)
  injection h with h
  exact Expr.postorder_injective h

/-- **A sentence is read as the grammar reads it.** Its postfix form is that of the tree that it is
derived with, and there is no other tree. -/
theorem ofInfix_sentence (h : Denotes tokens e) :
    ofInfix tokens = .ok e.postorder ∧ ∀ other, Denotes tokens other → other = e :=
  ⟨ofInfix_of_denotes h, fun _ hother => hother.unique h⟩

/-- `sin sqrt 2 ^ 3 ^ (4 - 5 - 6)`: functions before the powers, powers from the right, differences
from the left. -/
theorem ofInfix_powers_of_differences :
    ofInfix ([.func .sin, .func .sqrt, .number 2 "2", .operator .pow, .number 3 "3", .operator .pow,
      .paren true, .number 4 "4", .operator .sub, .number 5 "5", .operator .sub, .number 6 "6",
      .paren false] : List Token) =
    .ok [.number 2 "2", .func .sqrt, .func .sin, .number 3 "3", .number 4 "4", .number 5 "5",
      .operator .sub, .number 6 "6", .operator .sub, .operator .pow, .operator .pow] := by
  have four : Writes .product [.number 4 "4"] (.number 4 "4") := .power (.unit (.number 4 "4"))
  have difference : Writes .sum _ (.binary .sub _ _) :=
    .sum rfl (.term four) (.power (.unit (.number 5 "5")))
  have differences : Writes .sum _ (.binary .sub _ _) :=
    .sum rfl difference (.power (.unit (.number 6 "6")))
  have powers := Writes.pow (.number 3 "3") (.unit (.parenthesized differences))
  have root : Writes .unit _ _ := .func .sin (.func .sqrt (.number 2 "2"))
  exact (ofInfix_sentence (.term (.power (.pow root powers)))).1

end

end DeskCalc.Infix
