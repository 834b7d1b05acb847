import Mathlib.Data.List.Chain
import DeskCalc.Proofs.Postfix.Order
import DeskCalc.Proofs.Postfix.Rejection

/-!
# The shape of the stack

At every point of a run, whatever the tokens are, the stack between two parentheses holds operators
and functions above them, and the operators bind more tightly the higher they are; only a power can
lie on a power. `LiesOn` says this of two neighbours, so the shape is a chain: what is taken from
the top leaves a chain, and of what is put there only the new neighbours are in question
(`isChain_of_step`). The parentheses on the stack are those that are still open
(`countP_isOpening_of_step`).

`runUntil` is the run of the first tokens, which the rest of the run starts from
(`run_append_eq`), so the stack that it leaves is the one that the run has there.
-/

namespace DeskCalc.Postfix

open Token

/-- Reads the first tokens of a run, those before `rest`: what is written, and what is held back
then. -/
def runUntil (rest : List Token) (held : List (Held False)) :
    List Token → Except (ParseError False) (List Token × List (Held False))
  | [] => .ok ([], held)
  | t :: read => do
    let (written, held) ← step held t (read ++ rest).head?
    let (more, held) ← runUntil rest held read
    return (written ++ more, held)

/-- An operator is held back right above another one: it binds more tightly, or both are powers. -/
def Outranks (upper lower : Operator) : Prop :=
  lower.precedence < upper.precedence ∨ upper = .pow ∧ lower = .pow

/-- The first item is held back right above the second: an operator is not above a function, and
above an operator only if it outranks it. -/
def LiesOn : Held False → Held False → Prop
  | .operator upper, .operator lower => Outranks upper lower
  | .operator _, lower => lower.isFunc = false
  | _, _ => True

/-- From the top to the bottom: functions, and operators that outrank the ones below them. -/
def Ordered (segment : List (Held False)) : Prop :=
  ∃ (funcs : List Func) (ops : List Operator),
    segment = funcs.map .func ++ ops.map .operator ∧ ops.IsChain Outranks

/-- What a stack is like after the tokens `read`. -/
structure ShapedAfter (read : List Token) (held : List (Held False)) : Prop where
  /-- What lies between parentheses is in order. -/
  ordered : ∀ segment, segment <:+: held → (∀ x ∈ segment, x.isOpening = false) → Ordered segment
  /-- The parentheses on it are those that are still open. -/
  unclosed : held.countP Held.isOpening = read.foldl depthAfter 0
  /-- With those that are closed they are all that were opened. -/
  opened : held.countP Held.isOpening + closings read = openings read

section
variable {held below after : List (Held False)} {read rest written : List Token} {t : Token}
  {next : Option Token} {x : Held False} {op : Operator}

/-! ## Neighbours -/

theorem isOpening_eq_false_of_isFunc (h : x.isFunc = true) : x.isOpening = false := by
  cases x with
  | func | unlistedFunc => rfl
  | operator | opening => cases h

/-- An operator lies on what does not take its operand before it. -/
theorem liesOn_of_precedes_eq_false (h : x.precedes op = false) : LiesOn (.operator op) x := by
  cases x with
  | opening => rfl
  | func | unlistedFunc => cases h
  | operator lower =>
    rw [LiesOn, Outranks]
    rw [Held.precedes] at h
    split at h
    · next hright =>
      -- the power is the only operator to the right, and nothing binds more tightly
      have hop : op = .pow := by
        cases op with
        | pow => rfl
        | add | sub | mul | div => cases hright
      subst hop
      cases lower with
      | pow => exact .inr ⟨rfl, rfl⟩
      | add | sub | mul | div => exact .inl (by decide)
    · exact .inl (Nat.lt_of_not_le (of_decide_eq_false h))

/-- A chain without a parenthesis is in order. -/
theorem ordered_of_isChain (hchain : held.IsChain LiesOn)
    (hopen : ∀ x ∈ held, x.isOpening = false) : Ordered held := by
  induction held with
  | nil => exact ⟨[], [], rfl, .nil⟩
  | cons x below ih =>
    obtain ⟨hlies, hbelow⟩ := List.isChain_cons.1 hchain
    obtain ⟨hx, hopen⟩ := List.forall_mem_cons.1 hopen
    obtain ⟨funcs, ops, rfl, hops⟩ := ih hbelow hopen
    cases x with
    | opening => cases hx
    | unlistedFunc name isBare => exact isBare.elim
    | func f => exact ⟨f :: funcs, ops, rfl, hops⟩
    | operator op =>
      cases funcs with
      | cons f funcs => exact absurd (hlies _ rfl) (by simp [LiesOn, Held.isFunc])
      | nil =>
        refine ⟨[], op :: ops, rfl, List.isChain_cons.2 ⟨fun lower hlower => ?_, hops⟩⟩
        exact hlies (.operator lower) (by simpa using hlower)

/-! ## Steps -/

/-- **A step keeps the order of the stack.** -/
theorem isChain_of_step (h : step held t next = .ok (written, after))
    (hchain : held.IsChain LiesOn) : after.IsChain LiesOn := by
  cases t with
  | number value text => cases h; exact hchain
  | func f => cases h; exact List.isChain_cons.2 ⟨fun _ _ => trivial, hchain⟩
  | unlisted kind name isBare => exact isBare.elim
  | paren opening =>
    cases opening with
    | true => cases h; exact List.isChain_cons.2 ⟨fun _ _ => trivial, hchain⟩
    | false =>
      obtain ⟨group, hdrop, -, -⟩ := exists_group_of_step h
      refine hchain.suffix (.trans ?_ (List.dropWhile_suffix (!·.isOpening)))
      rw [hdrop, ← List.cons_append]
      exact List.suffix_append _ after
  | operator op =>
    simp only [step] at h
    split at h
    · cases h
    · cases h
      refine List.isChain_cons.2 ⟨fun x hx => ?_, hchain.suffix (List.dropWhile_suffix _)⟩
      have hstays := List.head?_dropWhile_not (·.precedes op) held
      rw [hx] at hstays
      exact liesOn_of_precedes_eq_false (by simpa using hstays)

/-- **A step keeps the parentheses on the stack that are open after it**, and it closes none that is
not there. -/
theorem countP_isOpening_of_step (h : step held t next = .ok (written, after)) :
    isStray (held.countP Held.isOpening) t = false ∧
      after.countP Held.isOpening = depthAfter (held.countP Held.isOpening) t := by
  cases t with
  | number | func => cases h; exact ⟨rfl, rfl⟩
  | unlisted kind name isBare => exact isBare.elim
  | paren opening =>
    cases opening with
    | true => cases h; exact ⟨rfl, List.countP_cons_of_pos rfl⟩
    | false =>
      obtain ⟨group, hdrop, hgroup, -⟩ := exists_group_of_step h
      have hnone : group.countP Held.isOpening = 0 := by
        refine List.countP_eq_zero.2 fun x hx => ?_
        simp [isOpening_eq_false_of_isFunc (hgroup x hx)]
      have hcount := countP_isOpening_dropWhile (p := (!·.isOpening)) rfl held
      rw [hdrop, List.countP_cons_of_pos rfl, List.countP_append, hnone] at hcount
      rw [← hcount]
      simp [isStray, depthAfter, isClosing, GenToken.isOpening]
  | operator op =>
    simp only [step] at h
    split at h
    · cases h
    · cases h
      refine ⟨rfl, ?_⟩
      rw [List.countP_cons_of_neg (by simp [Held.isOpening]), countP_isOpening_dropWhile rfl]
      rfl

/-! ## Runs -/

/-- A run of the first tokens that succeeds is a step that does, and a run of the others. -/
theorem exists_step_of_runUntil (h : runUntil rest held (t :: read) = .ok (written, after)) :
    ∃ first below more, step held t (read ++ rest).head? = .ok (first, below) ∧
      runUntil rest below read = .ok (more, after) ∧ written = first ++ more := by
  obtain ⟨⟨first, below⟩, hstep, h⟩ := exists_of_bind_eq_ok h
  obtain ⟨⟨more, last⟩, hmore, h⟩ := exists_of_bind_eq_ok h
  cases h
  exact ⟨first, below, more, hstep, hmore, rfl⟩

/-- A run goes on from where the run of its first tokens ends, and fails where that does. -/
theorem run_append_eq (rest : List Token) (held : List (Held False)) (read : List Token) :
    run held (read ++ rest) =
      match runUntil rest held read with
      | .ok (written, after) => writing written (run after rest)
      | .error cause => .error cause := by
  induction read generalizing held with
  | nil => exact (writing_nil _).symm
  | cons t read ih =>
    rw [List.cons_append, run_cons, runUntil]
    cases hstep : step held t (read ++ rest).head? with
    | error cause => rfl
    | ok p =>
      obtain ⟨first, below⟩ := p
      simp only [ih below]
      cases hmore : runUntil rest below read with
      | error cause => simp [hmore, bind, Except.bind]
      | ok q => simp [hmore, bind, Except.bind, pure, Except.pure]

/-- A run of the first tokens keeps the order of the stack, and the parentheses that are open. -/
theorem keeps_runUntil (h : runUntil rest held read = .ok (written, after))
    (hchain : held.IsChain LiesOn) :
    after.IsChain LiesOn ∧
      after.countP Held.isOpening = read.foldl depthAfter (held.countP Held.isOpening) ∧
      after.countP Held.isOpening + closings read =
        held.countP Held.isOpening + openings read := by
  induction read generalizing held written with
  | nil => cases h; exact ⟨hchain, rfl, rfl⟩
  | cons t read ih =>
    obtain ⟨first, below, more, hstep, hmore, rfl⟩ := exists_step_of_runUntil h
    obtain ⟨hstray, hdepth⟩ := countP_isOpening_of_step hstep
    obtain ⟨hafter, hunclosed, hopened⟩ := ih hmore (isChain_of_step hstep hchain)
    have hcounted := depthAfter_add_closings hstray
    refine ⟨hafter, by rw [hunclosed, hdepth, List.foldl_cons], ?_⟩
    rw [closings_cons, openings_cons]
    omega

/-- **The stack of a run.** Wherever a list of tokens is cut, the run either fails before the cut or
goes on after it from a stack that is in order between its parentheses and holds one of them for
each that is open at the cut. -/
theorem ofInfix_stack_shaped (read rest : List Token) :
    (∃ cause, runUntil rest [] read = .error cause ∧ ofInfix (read ++ rest) = .error cause) ∨
      ∃ written held, runUntil rest [] read = .ok (written, held) ∧
        ofInfix (read ++ rest) = writing written (run held rest) ∧ ShapedAfter read held := by
  have hrun := run_append_eq rest [] read
  cases h : runUntil rest [] read with
  | error cause =>
    rw [h] at hrun
    exact .inl ⟨cause, rfl, hrun⟩
  | ok p =>
    obtain ⟨written, held⟩ := p
    rw [h] at hrun
    obtain ⟨hchain, hunclosed, hopened⟩ := keeps_runUntil h .nil
    refine .inr ⟨written, held, rfl, hrun, fun segment hsegment hopen => ?_, hunclosed, ?_⟩
    · have hinner : segment.IsChain LiesOn := List.IsChain.infix hchain hsegment
      exact ordered_of_isChain hinner hopen
    · simpa using hopened

/-- What waits at the end of `1 - 2 * sin (4 ^`, the latest first. -/
example :
    runUntil [] [] [.number 1 "1", .operator .sub, .number 2 "2", .operator .mul, .func .sin,
      .paren true, .number 4 "4", .operator .pow] =
    .ok ([.number 1 "1", .number 2 "2", .number 4 "4"],
      [.operator .pow, .opening, .func .sin, .operator .mul, .operator .sub]) :=
  rfl

end

end DeskCalc.Postfix
