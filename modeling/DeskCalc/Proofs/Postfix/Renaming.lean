import DeskCalc.Postfix
import DeskCalc.Proofs.Result

/-!
# Functions under other names

`Postfix.ofInfix` asks of a token what kind it is, of an operator how it binds, and nothing else. So
it does not matter to it which functions there are: with every function replaced by another one the
postfix form is the same but for that, and so is the error (`ofInfix_map`). The replacement may also
say anew why an unlisted name is allowed, which is how listed tokens become tokens of any name.

The evaluation does ask what a function computes. Two evaluations that agree on the single tokens,
up to what is read off their errors, agree on the whole form (`mapError_value`).

So nothing is lost by reading listed tokens as such, although the stages are written for tokens of
any name: listed tokens that are read as tokens of any name give the same postfix form and the same
value, or the same error (`ofInfix_map_toBare`, `value_map_toBare`). The look-ups that could fail do
not, wherever the tokens come from a text.
-/

namespace DeskCalc

section
variable {a b : Prop}

/-- The token with another function in the place of a function, and with another reason to be
unlisted. -/
def GenToken.map (f : Func → Func) (g : a → b) : GenToken a → GenToken b
  | number value text => .number value text
  | operator op => .operator op
  | func x => .func (f x)
  | paren opening => .paren opening
  | unlisted kind name isBare => .unlisted kind name (g isBare)

/-- What waits, with the token that is written for it replaced. -/
def Held.map (f : Func → Func) (g : a → b) : Held a → Held b
  | operator op => .operator op
  | func x => .func (f x)
  | unlistedFunc name isBare => .unlistedFunc name (g isBare)
  | opening => .opening

/-- The error, with another reason to be unlisted. No error of the parser names a function. -/
def ParseError.map (g : a → b) : ParseError a → ParseError b
  | missingOperand name => .missingOperand name
  | strayClosing => .strayClosing
  | unclosedOpening => .unclosedOpening
  | unlisted name isBare => .unlisted name (g isBare)

@[simp] theorem ParseError.map_id (e : ParseError a) : e.map id = e := by
  cases e <;> rfl

end

namespace Postfix

section
variable {a b : Prop} {f : Func → Func} {g : a → b}

@[simp] theorem isOpening_map (x : Held a) : (x.map f g).isOpening = x.isOpening := by
  cases x <;> rfl

@[simp] theorem isFunc_map (x : Held a) : (x.map f g).isFunc = x.isFunc := by
  cases x <;> rfl

@[simp] theorem precedes_map (op : Operator) (x : Held a) :
    (x.map f g).precedes op = x.precedes op := by
  cases x <;> rfl

@[simp] theorem token?_map (x : Held a) : (x.map f g).token? = x.token?.map (GenToken.map f g) := by
  cases x <;> rfl

@[simp] theorem startsNoOperand_map (t : GenToken a) :
    startsNoOperand (t.map f g) = startsNoOperand t := by
  cases t <;> rfl

theorem filterMap_token?_map (held : List (Held a)) :
    (held.map (Held.map f g)).filterMap Held.token? =
      (held.filterMap Held.token?).map (GenToken.map f g) := by
  have hcomp : Held.token? ∘ Held.map f g = fun x => x.token?.map (GenToken.map f g) :=
    funext token?_map
  rw [List.filterMap_map, hcomp, List.map_filterMap]

theorem takeWhile_map_held {p : Held a → Bool} {q : Held b → Bool}
    (h : ∀ x : Held a, q (x.map f g) = p x) (held : List (Held a)) :
    (held.map (Held.map f g)).takeWhile q = (held.takeWhile p).map (Held.map f g) := by
  rw [List.takeWhile_map, show q ∘ Held.map f g = p from funext h]

theorem dropWhile_map_held {p : Held a → Bool} {q : Held b → Bool}
    (h : ∀ x : Held a, q (x.map f g) = p x) (held : List (Held a)) :
    (held.map (Held.map f g)).dropWhile q = (held.dropWhile p).map (Held.map f g) := by
  rw [List.dropWhile_map, show q ∘ Held.map f g = p from funext h]

/-- What is written and what waits after a step, with the functions replaced. -/
def stepMap (f : Func → Func) (g : a → b) (p : List (GenToken a) × List (Held a)) :
    List (GenToken b) × List (Held b) :=
  (p.1.map (GenToken.map f g), p.2.map (Held.map f g))

/-- A closing parenthesis writes the same after the functions that wait are replaced. -/
theorem step_closing_map (held : List (Held a)) (next : Option (GenToken a))
    (next' : Option (GenToken b)) :
    step (held.map (Held.map f g)) (.paren false) next' =
      ((step held (.paren false) next).mapError (ParseError.map g)).map (stepMap f g) := by
  have hopening (x : Held a) : (!(x.map f g).isOpening) = !x.isOpening := by simp
  have htake := takeWhile_map_held (p := (!·.isOpening)) (q := (!·.isOpening)) hopening held
  have hdrop := dropWhile_map_held (p := (!·.isOpening)) (q := (!·.isOpening)) hopening held
  simp only [step, htake, hdrop, filterMap_token?_map]
  generalize held.dropWhile (!·.isOpening) = outer
  rcases outer with _ | ⟨x, _ | ⟨y, below⟩⟩
  · rfl
  · rfl
  · simp only [List.map_cons, isFunc_map, token?_map]
    cases y.isFunc with
    | true => cases y.token? <;> exact congrArg Except.ok (by simp [stepMap])
    | false => rfl

/-- A step reads a token with its function replaced as it reads the token. -/
theorem step_map (held : List (Held a)) (t : GenToken a) (next : Option (GenToken a)) :
    step (held.map (Held.map f g)) (t.map f g) (next.map (GenToken.map f g)) =
      ((step held t next).mapError (ParseError.map g)).map (stepMap f g) := by
  have hnext : (next.map (GenToken.map f g)).any startsNoOperand = next.any startsNoOperand := by
    cases next with
    | none => rfl
    | some u => exact startsNoOperand_map u
  cases t with
  | number | func => rfl
  | paren opening =>
    cases opening with
    | true => rfl
    | false => exact step_closing_map held next (next.map (GenToken.map f g))
  | operator op =>
    simp only [step, GenToken.map, hnext, takeWhile_map_held (precedes_map op),
      dropWhile_map_held (precedes_map op), filterMap_token?_map]
    split <;> rfl
  | unlisted kind name isBare =>
    cases kind with
    | function => rfl
    | paren => exact step_closing_map held next (next.map (GenToken.map f g))
    | operator =>
      simp only [step, GenToken.map, hnext]
      split <;> rfl

theorem run_map (held : List (Held a)) (tokens : List (GenToken a)) :
    run (held.map (Held.map f g)) (tokens.map (GenToken.map f g)) =
      ((run held tokens).mapError (ParseError.map g)).map (List.map (GenToken.map f g)) := by
  induction tokens generalizing held with
  | nil =>
    have hany : (held.map (Held.map f g)).any Held.isOpening = held.any Held.isOpening := by
      rw [List.any_map, show Held.isOpening ∘ Held.map f g = Held.isOpening from
        funext isOpening_map]
    simp only [List.map_nil, run, drain, hany, filterMap_token?_map]
    split <;> rfl
  | cons t tokens ih =>
    rw [List.map_cons, run, run, List.head?_map, step_map]
    cases step held t tokens.head? with
    | error cause => rfl
    | ok p =>
      change (run (p.2.map (Held.map f g)) (tokens.map (GenToken.map f g)) >>= _) = _
      rw [ih]
      change _ = ((run p.2 tokens >>= fun rest => pure (p.1 ++ rest)).mapError _).map _
      cases run p.2 tokens with
      | error cause => rfl
      | ok form => exact congrArg Except.ok (List.map_append.symm)

/-- **The postfix form does not depend on which functions there are**, nor does the error. -/
theorem ofInfix_map (tokens : List (GenToken a)) :
    ofInfix (tokens.map (GenToken.map f g)) =
      ((ofInfix tokens).mapError (ParseError.map g)).map (List.map (GenToken.map f g)) :=
  run_map [] tokens

end

/-! ## Values -/

section
variable {a b : Prop} {ε : Type} {base base' : LogBase} {φ : GenToken a → GenToken b}
  {view : EvalError a → ε} {view' : EvalError b → ε}

/-- Two evaluations that agree on the single tokens, up to what is read off their errors, agree on
the whole form. -/
theorem mapError_value (hempty : view' .empty = view .empty)
    (hleftover : ∀ count, view' (.leftover count) = view (.leftover count))
    (happly : ∀ values t,
      (apply base' values (φ t)).mapError view' = (apply base values t).mapError view)
    (form : List (GenToken a)) :
    (value base' (form.map φ)).mapError view' = (value base form).mapError view := by
  have hresult (values : List Float) :
      (result values).mapError view' = (result values).mapError view := by
    rcases values with _ | ⟨y, _ | ⟨x, below⟩⟩
    · exact congrArg Except.error (hleftover 0)
    · rfl
    · exact congrArg Except.error (hleftover _)
  rw [value, value, List.isEmpty_map]
  split
  · exact congrArg Except.error hempty
  · exact mapError_bind (mapError_foldlM happly form []) hresult

end

end Postfix

/-! ## Listed tokens among those of any name -/

/-- An error about listed tokens, among those about tokens of any name. -/
def ParseError.toBare : ParseError False → ParseError True
  | missingOperand name => .missingOperand name
  | strayClosing => .strayClosing
  | unclosedOpening => .unclosedOpening

/-- An error about listed tokens, among those about tokens of any name. -/
def EvalError.toBare : EvalError False → EvalError True
  | empty => .empty
  | insufficientOperands name => .insufficientOperands name
  | parenthesis => .parenthesis
  | leftover count => .leftover count
  | arithmetic cause => .arithmetic cause

/-- An answer of the evaluation to what is no postfix form of listed tokens: a parenthesis or a name
that no table lists. -/
def EvalError.isFallback {bare : Prop} : EvalError bare → Bool
  | parenthesis | unlistedOperator .. | unlistedFunc .. | secondOperandMissing .. => true
  | empty | insufficientOperands _ | leftover _ | arithmetic _ => false

namespace Postfix

open Token

/-- As tokens of any name, listed tokens keep their functions. -/
theorem toBare_eq_map : toBare = GenToken.map id False.elim := by
  funext t
  cases t with
  | number | operator | func | paren => rfl
  | unlisted kind name isBare => exact isBare.elim

theorem parseErrorToBare_eq_map : ParseError.toBare = ParseError.map False.elim := by
  funext e
  cases e with
  | missingOperand | strayClosing | unclosedOpening => rfl
  | unlisted name isBare => exact isBare.elim

/-- **Listed tokens have the same postfix form as tokens of any name.** -/
theorem ofInfix_map_toBare (tokens : List Token) :
    ofInfix (tokens.map toBare) =
      ((ofInfix tokens).mapError ParseError.toBare).map (List.map toBare) := by
  rw [toBare_eq_map, parseErrorToBare_eq_map]
  exact ofInfix_map tokens

theorem apply_toBare (base : LogBase) (values : List Float) (t : Token) :
    apply base values t.toBare = (apply base values t).mapError EvalError.toBare := by
  cases t with
  | number | paren => rfl
  | func f =>
    rcases values with _ | ⟨x, below⟩
    · rfl
    · simp only [apply, toBare]
      cases f.apply base x <;> rfl
  | operator op =>
    rcases values with _ | ⟨y, _ | ⟨x, below⟩⟩
    · rfl
    · rfl
    · simp only [apply, toBare]
      cases op.apply x y <;> rfl
  | unlisted kind name isBare => exact isBare.elim

/-- **Listed tokens have the same value as tokens of any name.** -/
theorem value_map_toBare (base : LogBase) (form : List Token) :
    value base (form.map toBare) = (value base form).mapError EvalError.toBare := by
  rw [← mapError_id (value base (form.map toBare))]
  refine mapError_value ?_ (fun _ => ?_) (fun values t => ?_) form
  · rfl
  · rfl
  · rw [mapError_id, apply_toBare]

end Postfix

end DeskCalc
