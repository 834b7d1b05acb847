import DeskCalc.Postfix

/-!
# Reading infix tokens, one at a time

What `Postfix.run` does with each kind of token, so that no later proof opens `step`. `writing` puts
tokens before what the rest of a run writes, and keeps its error; every equation of the module says
that a run is `writing` something before a run from another stack.

The stack is taken apart from its top as well: `run_cons_of_released` writes the topmost item at
once when the next token does not leave it there. So a run can be compared with the run from the
stack below, and no proof has to say how far a token empties the stack.
-/

namespace DeskCalc.Postfix

section
variable {held : List (Held False)} {rest : List Token}

/-- A run that writes some tokens before those of another one. -/
def writing (written : List Token) (r : Except (ParseError False) (List Token)) :
    Except (ParseError False) (List Token) :=
  r.map (written ++ ·)

@[simp] theorem writing_ok (written form : List Token) :
    writing written (.ok form) = .ok (written ++ form) := rfl

@[simp] theorem writing_error (written : List Token) (cause : ParseError False) :
    writing written (.error cause) = .error cause := rfl

@[simp] theorem writing_nil (r : Except (ParseError False) (List Token)) : writing [] r = r := by
  cases r <;> rfl

@[simp] theorem writing_writing (a b : List Token) (r : Except (ParseError False) (List Token)) :
    writing a (writing b r) = writing (a ++ b) r := by
  cases r with
  | error cause => rfl
  | ok form => simp

/-! ## A token at a time -/

theorem run_cons (t : Token) :
    run held (t :: rest) =
      match step held t rest.head? with
      | .ok (written, below) => writing written (run below rest)
      | .error cause => .error cause := by
  rw [run]
  cases step held t rest.head? with
  | error cause => rfl
  | ok p => cases run p.2 rest <;> rfl

/-- A number is written at once. -/
@[simp] theorem run_number (value : Float) (text : String) :
    run held (.number value text :: rest) = writing [.number value text] (run held rest) := by
  rw [run_cons]; rfl

/-- A function waits. -/
@[simp] theorem run_func (f : Func) :
    run held (.func f :: rest) = run (.func f :: held) rest := by
  rw [run_cons]; exact writing_nil _

/-- An opening parenthesis waits. -/
@[simp] theorem run_opening :
    run held (.paren true :: rest) = run (.opening :: held) rest := by
  rw [run_cons]; exact writing_nil _

/-- An operator without its right operand ends the run. -/
theorem run_operator_of_missing (op : Operator) (h : rest.head?.any startsNoOperand = true) :
    run held (.operator op :: rest) = .error (.missingOperand op.name) := by
  rw [run_cons, step, if_pos h]

/-- An operator has the items written that take their operand before it, and waits. -/
theorem run_operator (op : Operator) (h : rest.head?.any startsNoOperand = false) :
    run held (.operator op :: rest) =
      writing ((held.takeWhile (·.precedes op)).filterMap Held.token?)
        (run (.operator op :: held.dropWhile (·.precedes op)) rest) := by
  rw [run_cons, step, if_neg (by simp [h])]

/-- A closing parenthesis without an opening one ends the run. -/
theorem run_closing_of_stray (h : held.dropWhile (!·.isOpening) = []) :
    run held (.paren false :: rest) = .error .strayClosing := by
  rw [run_cons, step, h]

/-- The run after a closing parenthesis, with `outer` on the stack: the function that the
parentheses belong to is written. -/
def runAfterGroup (outer : List (Held False)) (rest : List Token) :
    Except (ParseError False) (List Token) :=
  match outer with
  | .func f :: below => writing [.func f] (run below rest)
  | _ => run outer rest

/-- A closing parenthesis has all items down to the opening one written. -/
theorem run_closing {outer : List (Held False)}
    (h : held.dropWhile (!·.isOpening) = .opening :: outer) :
    run held (.paren false :: rest) =
      writing ((held.takeWhile (!·.isOpening)).filterMap Held.token?)
        (runAfterGroup outer rest) := by
  rw [run_cons, step, h]
  cases outer with
  | nil => rfl
  | cons x below =>
    cases x with
    | func f => exact (writing_writing _ _ _).symm
    | unlistedFunc name isBare => exact isBare.elim
    | operator op => rfl
    | opening => rfl

/-- What stops a closing parenthesis is an opening one. -/
theorem eq_opening_of_dropWhile {bare : Prop} {x : Held bare} {held outer : List (Held bare)}
    (h : held.dropWhile (!·.isOpening) = x :: outer) : x = .opening := by
  have hx := List.head?_dropWhile_not (fun y : Held bare => !y.isOpening) held
  rw [h] at hx
  cases x with
  | opening => rfl
  | operator | func | unlistedFunc => cases hx

/-! ## An item at a time -/

/-- The next token does not leave the item on the top of the stack: it is the end, a closing
parenthesis, or an operator that the item precedes. -/
def Released (x : Held False) (rest : List Token) : Prop :=
  x.isOpening = false ∧
    ∀ t ∈ rest.head?, t = .paren false ∨ ∃ op, t = .operator op ∧ x.precedes op = true

/-- An item that is not left on the stack is written first. -/
theorem run_cons_of_released {x : Held False} (h : Released x rest) :
    run (x :: held) rest = writing x.token?.toList (run held rest) := by
  obtain ⟨hx, hnext⟩ := h
  have htoken (xs : List (Held False)) :
      (x :: xs).filterMap Held.token? = x.token?.toList ++ xs.filterMap Held.token? := by
    cases ht : x.token? <;> simp [ht]
  cases rest with
  | nil =>
    simp only [run, drain, List.any_cons, hx, Bool.false_or, htoken]
    cases held.any Held.isOpening <;> rfl
  | cons t rest =>
    rcases hnext t rfl with rfl | ⟨op, rfl, hop⟩
    · have hdrop : (x :: held).dropWhile (!·.isOpening) = held.dropWhile (!·.isOpening) := by
        simp [hx]
      have htake : (x :: held).takeWhile (!·.isOpening) =
          x :: held.takeWhile (!·.isOpening) := by simp [hx]
      cases hd : held.dropWhile (!·.isOpening) with
      | nil => rw [run_closing_of_stray hd, run_closing_of_stray (hdrop.trans hd), writing_error]
      | cons y outer =>
        obtain rfl := eq_opening_of_dropWhile hd
        rw [run_closing hd, run_closing (hdrop.trans hd), htake, htoken, writing_writing]
    · cases hm : rest.head?.any startsNoOperand with
      | true =>
        rw [run_operator_of_missing op hm, run_operator_of_missing op hm, writing_error]
      | false =>
        rw [run_operator op hm, run_operator op hm, List.takeWhile_cons_of_pos hop,
          List.dropWhile_cons_of_pos hop, htoken, writing_writing]

/-- Where the functions on the top of the stack are written anyway, a group leaves nothing
behind. -/
theorem runAfterGroup_of_released (h : ∀ f, Released (.func f) rest) :
    runAfterGroup held rest = run held rest := by
  unfold runAfterGroup
  split
  · exact (run_cons_of_released (h _)).symm
  · rfl

/-- An operator that finds nothing to release above `held` is added to it. -/
theorem run_operator_of_head {op : Operator} (h : rest.head?.any startsNoOperand = false)
    (hheld : ∀ x ∈ held.head?, x.precedes op = false) :
    run held (.operator op :: rest) = run (.operator op :: held) rest := by
  rw [run_operator op h]
  cases held with
  | nil => exact writing_nil _
  | cons x below =>
    have hx := hheld x rfl
    rw [List.takeWhile_cons_of_neg (by simp [hx]), List.dropWhile_cons_of_neg (by simp [hx])]
    exact writing_nil _

end

end DeskCalc.Postfix
