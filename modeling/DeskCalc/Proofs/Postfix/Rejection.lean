import Mathlib.Order.Bounds.Defs
import DeskCalc.Proofs.Postfix.Run
import DeskCalc.Proofs.Token.Parentheses

/-!
# Which tokens have no postfix form

The stack decides nothing about success but by the number of parentheses that it holds, which are
those that are still open. So a run fails as `faultFrom` says, which keeps that number and looks one
token ahead (`run_eq_error_iff`). Read by positions, there are two kinds of places where it can
stop: an operator right before an operator or a closing parenthesis (`OperandMissing`), and a
closing parenthesis when every earlier one is closed (`StrayClosing`). The first place wins, and
without one the run fails exactly when a parenthesis is left open.
-/

namespace DeskCalc.Postfix

open Token

/-- The operator at a position has an operator or a closing parenthesis right after it. -/
def OperandMissing (tokens : List Token) (i : Nat) : Prop :=
  ∃ op, tokens[i]? = some (.operator op) ∧
    ((∃ next, tokens[i + 1]? = some (.operator next)) ∨ tokens[i + 1]? = some (.paren false))

/-- A closing parenthesis is at the position when all opened before it are closed, `depth` of which
are opened before the tokens. -/
def StrayFrom (depth : Nat) (tokens : List Token) (j : Nat) : Prop :=
  tokens[j]? = some (.paren false) ∧
    depth + openings (tokens.take j) = closings (tokens.take j)

/-- A closing parenthesis is at the position when all opened before it are closed. -/
def StrayClosing (tokens : List Token) (j : Nat) : Prop :=
  tokens[j]? = some (.paren false) ∧ openings (tokens.take j) = closings (tokens.take j)

/-- An operator lacks its right operand, no earlier one does, and no closing parenthesis before it
is stray. -/
def MissingFirst (tokens : List Token) (i : Nat) : Prop :=
  IsLeast {i | OperandMissing tokens i} i ∧ ∀ j, StrayClosing tokens j → i < j

/-- The fault of a token right before others: an operator lacks its right operand. -/
def operandFault? : Token → List Token → Option (ParseError False)
  | .operator op, rest =>
    if rest.head?.any startsNoOperand then some (.missingOperand op.name) else none
  | _, _ => none

/-- The fault of a run, from the number of parentheses on its stack. -/
def faultFrom : Nat → List Token → Option (ParseError False)
  | depth, [] => if depth = 0 then none else some .unclosedOpening
  | depth, t :: rest =>
    if isStray depth t then some .strayClosing
    else (operandFault? t rest).or (faultFrom (depthAfter depth t) rest)

/-! ## The stack and the parentheses that are open -/

section
variable {held : List (Held False)} {tokens rest : List Token} {t : Token} {depth : Nat}
  {cause : ParseError False}

@[simp] theorem writing_eq_error_iff {written : List Token}
    {r : Except (ParseError False) (List Token)} :
    writing written r = .error cause ↔ r = .error cause := by
  cases r with
  | error c => rfl
  | ok form => simp

/-- No parenthesis is dropped by a test that no opening parenthesis passes. -/
theorem countP_isOpening_dropWhile {p : Held False → Bool} (hp : p .opening = false)
    (held : List (Held False)) :
    (held.dropWhile p).countP Held.isOpening = held.countP Held.isOpening := by
  induction held with
  | nil => rfl
  | cons x below ih =>
    rw [List.dropWhile_cons]
    split
    · next hx =>
      have hopening : x.isOpening = false := by
        cases x with
        | opening => rw [hp] at hx; cases hx
        | operator | func | unlistedFunc => rfl
      rw [ih, List.countP_cons, hopening]
      rfl
    · rfl

/-- A group leaves the parentheses on the stack. -/
theorem runAfterGroup_eq_error_iff
    (ih : ∀ {held : List (Held False)}, run held rest = .error cause ↔
      faultFrom (held.countP Held.isOpening) rest = some cause)
    (outer : List (Held False)) :
    runAfterGroup outer rest = .error cause ↔
      faultFrom (outer.countP Held.isOpening) rest = some cause := by
  unfold runAfterGroup
  split
  · rw [writing_eq_error_iff, ih]
    rfl
  · exact ih

/-- A run fails as the number of parentheses on its stack says. -/
theorem run_eq_error_iff :
    run held tokens = .error cause ↔
      faultFrom (held.countP Held.isOpening) tokens = some cause := by
  induction tokens generalizing held with
  | nil =>
    by_cases h : held.countP Held.isOpening = 0
    · have hany : held.any Held.isOpening = false := by
        simpa [List.countP_eq_zero] using h
      simp [run, drain, faultFrom, hany, h]
    · have hany : held.any Held.isOpening = true := by
        simpa [List.countP_eq_zero] using h
      simp [run, drain, faultFrom, hany, h]
  | cons t rest ih =>
    cases t with
    | number value text =>
      rw [run_number, writing_eq_error_iff, ih]
      rfl
    | func f =>
      rw [run_func, ih]
      rfl
    | paren opening =>
      cases opening with
      | true =>
        rw [run_opening, ih, List.countP_cons]
        rfl
      | false =>
        have hcount := countP_isOpening_dropWhile (p := (!·.isOpening)) rfl held
        cases hd : held.dropWhile (!·.isOpening) with
        | nil =>
          rw [hd] at hcount
          rw [run_closing_of_stray hd, ← hcount]
          simp [faultFrom, isStray, isClosing]
        | cons x outer =>
          obtain rfl := eq_opening_of_dropWhile hd
          rw [hd, List.countP_cons] at hcount
          rw [run_closing hd, writing_eq_error_iff, runAfterGroup_eq_error_iff ih, ← hcount]
          simp [faultFrom, isStray, operandFault?, depthAfter, isClosing, GenToken.isOpening,
            Held.isOpening]
    | operator op =>
      cases hm : rest.head?.any startsNoOperand with
      | true =>
        rw [run_operator_of_missing op hm]
        simp [faultFrom, isStray, isClosing, operandFault?, hm]
      | false =>
        rw [run_operator op hm, writing_eq_error_iff, ih, List.countP_cons,
          countP_isOpening_dropWhile rfl]
        simp [faultFrom, isStray, isClosing, operandFault?, hm, depthAfter,
          GenToken.isOpening, Held.isOpening]
    | unlisted kind name isBare => exact isBare.elim

/-! ## Faults by position -/

theorem operandMissing_zero_iff :
    OperandMissing (t :: rest) 0 ↔
      ∃ op, t = .operator op ∧ rest.head?.any startsNoOperand = true := by
  simp only [OperandMissing, List.getElem?_cons_zero, List.getElem?_cons_succ, Option.some.injEq]
  refine exists_congr fun op => and_congr_right fun _ => ?_
  cases rest with
  | nil => simp
  | cons u rest =>
    cases u with
    | paren opening =>
      cases opening <;> simp [startsNoOperand, GenToken.isOperator, GenToken.kind,
        GenToken.isParen, GenToken.isOpening]
    | number | operator | func =>
      simp [startsNoOperand, GenToken.isOperator, GenToken.kind, GenToken.isParen]
    | unlisted kind name isBare => exact isBare.elim

theorem operandMissing_succ_iff {i : Nat} :
    OperandMissing (t :: rest) (i + 1) ↔ OperandMissing rest i := by
  simp [OperandMissing]

/-- A property that no position of a list has, position by position. -/
theorem forall_not_operandMissing_cons (h : ¬ OperandMissing (t :: rest) 0)
    (hrest : ∀ i, ¬ OperandMissing rest i) : ∀ i, ¬ OperandMissing (t :: rest) i
  | 0 => h
  | i + 1 => fun hi => hrest i (operandMissing_succ_iff.1 hi)

theorem strayFrom_zero_iff : StrayFrom depth (t :: rest) 0 ↔ isStray depth t = true := by
  cases t with
  | paren opening =>
    cases opening <;> simp [StrayFrom, isStray, isClosing, openings, closings]
  | number | operator | func => simp [StrayFrom, isStray, isClosing]
  | unlisted kind name isBare => exact isBare.elim

theorem strayFrom_succ_iff (h : isStray depth t = false) {j : Nat} :
    StrayFrom depth (t :: rest) (j + 1) ↔ StrayFrom (depthAfter depth t) rest j := by
  have hdepth := depthAfter_add_closings h
  simp only [StrayFrom, List.getElem?_cons_succ, List.take_succ_cons, openings_cons,
    closings_cons]
  refine and_congr_right fun _ => ?_
  omega

theorem operandFault?_eq_none (h : ¬ OperandMissing (t :: rest) 0) :
    operandFault? t rest = none := by
  cases t with
  | operator op => exact if_neg fun hnext => h (operandMissing_zero_iff.2 ⟨op, rfl, hnext⟩)
  | number | func | paren => rfl
  | unlisted kind name isBare => exact isBare.elim

/-- What a fault says about the positions of the tokens. -/
inductive Explains (depth : Nat) (tokens : List Token) : Option (ParseError False) → Prop
  | none (hmissing : ∀ i, ¬ OperandMissing tokens i)
    (hmatched : matchedFrom depth tokens = true) : Explains depth tokens none
  | missing {i : Nat} {op : Operator} (hop : tokens[i]? = some (.operator op))
    (hmissing : OperandMissing tokens i) (hfirst : ∀ k < i, ¬ OperandMissing tokens k)
    (hstray : ∀ j < i, ¬ StrayFrom depth tokens j) :
    Explains depth tokens (some (.missingOperand op.name))
  | stray {j : Nat} (hstray : StrayFrom depth tokens j)
    (hfirst : ∀ i < j, ¬ OperandMissing tokens i) (hmatched : matchedFrom depth tokens = false) :
    Explains depth tokens (some .strayClosing)
  | unclosed (hmissing : ∀ i, ¬ OperandMissing tokens i)
    (hmatched : matchedFrom depth tokens = false) : Explains depth tokens (some .unclosedOpening)

/-- A token without a fault passes the explanation of the rest on, one position later. -/
theorem Explains.cons {fault : Option (ParseError False)} (hstray : isStray depth t = false)
    (hmissing : ¬ OperandMissing (t :: rest) 0) (h : Explains (depthAfter depth t) rest fault) :
    Explains depth (t :: rest) fault := by
  have hfirst {n : Nat} (hn : ∀ k < n, ¬ OperandMissing rest k) :
      ∀ k < n + 1, ¬ OperandMissing (t :: rest) k
    | 0, _ => hmissing
    | k + 1, hk => fun hm => hn k (Nat.lt_of_succ_lt_succ hk) (operandMissing_succ_iff.1 hm)
  have hmatched : matchedFrom depth (t :: rest) = matchedFrom (depthAfter depth t) rest := by
    rw [matchedFrom, hstray]
    rfl
  cases h with
  | none hm hmatch => exact .none (forall_not_operandMissing_cons hmissing hm) (hmatched ▸ hmatch)
  | missing hop hm hf hs =>
    refine .missing hop (operandMissing_succ_iff.2 hm) (hfirst hf) fun j hj h => ?_
    cases j with
    | zero => rw [strayFrom_zero_iff, hstray] at h; cases h
    | succ j => exact hs j (Nat.lt_of_succ_lt_succ hj) ((strayFrom_succ_iff hstray).1 h)
  | stray hs hf hmatch =>
    exact .stray ((strayFrom_succ_iff hstray).2 hs) (hfirst hf) (hmatched ▸ hmatch)
  | unclosed hm hmatch =>
    exact .unclosed (forall_not_operandMissing_cons hmissing hm) (hmatched ▸ hmatch)

theorem explains_faultFrom (depth : Nat) (tokens : List Token) :
    Explains depth tokens (faultFrom depth tokens) := by
  have hnone (p : Nat → Prop) : ∀ k < 0, ¬ p k := fun k hk => absurd hk (Nat.not_lt_zero k)
  induction tokens generalizing depth with
  | nil =>
    have hm : ∀ i, ¬ OperandMissing [] i := by simp [OperandMissing]
    by_cases h : depth = 0
    · rw [faultFrom, if_pos h]
      exact .none hm (by simp [matchedFrom, h])
    · rw [faultFrom, if_neg h]
      exact .unclosed hm (by simp [matchedFrom, h])
  | cons t rest ih =>
    rw [faultFrom]
    cases hstray : isStray depth t with
    | true =>
      rw [if_pos rfl]
      exact .stray (strayFrom_zero_iff.2 hstray) (hnone _) (by simp [matchedFrom, hstray])
    | false =>
      rw [if_neg (by simp)]
      by_cases hmissing : OperandMissing (t :: rest) 0
      · obtain ⟨op, rfl, hnext⟩ := operandMissing_zero_iff.1 hmissing
        rw [operandFault?, if_pos hnext]
        exact .missing rfl hmissing (hnone _) (hnone _)
      · rw [operandFault?_eq_none hmissing]
        exact (ih _).cons hstray hmissing

end

/-! ## The law -/

section
variable {tokens : List Token} {cause : ParseError False}

theorem strayFrom_zero_depth {j : Nat} : StrayFrom 0 tokens j ↔ StrayClosing tokens j := by
  rw [StrayFrom, StrayClosing, Nat.zero_add]

/-- The fault of a whole list of tokens. -/
theorem ofInfix_eq_error_iff : ofInfix tokens = .error cause ↔ faultFrom 0 tokens = some cause :=
  run_eq_error_iff

theorem exists_ofInfix_iff_faultFrom :
    (∃ form, ofInfix tokens = .ok form) ↔ faultFrom 0 tokens = none := by
  cases hform : ofInfix tokens with
  | error cause => simp [ofInfix_eq_error_iff.1 hform]
  | ok form =>
    refine iff_of_true ⟨form, rfl⟩ ?_
    cases hfault : faultFrom 0 tokens with
    | none => rfl
    | some cause => rw [ofInfix_eq_error_iff.2 hfault] at hform; cases hform

/-- Tokens have a postfix form when no operator lacks its right operand and the parentheses
balance. -/
theorem exists_ofInfix_iff :
    (∃ form, ofInfix tokens = .ok form) ↔
      (∀ i, ¬ OperandMissing tokens i) ∧ Balanced tokens := by
  rw [exists_ofInfix_iff_faultFrom, ← matchedFrom_zero_iff]
  have h := explains_faultFrom 0 tokens
  generalize faultFrom 0 tokens = fault at h
  cases h with
  | none hmissing hmatched => exact iff_of_true rfl ⟨hmissing, hmatched⟩
  | missing hop hmissing => exact iff_of_false nofun fun h => h.1 _ hmissing
  | stray _ _ hmatched | unclosed _ hmatched =>
    exact iff_of_false nofun fun h => by rw [hmatched] at h; cases h.2

/-- Where the parentheses balance, only a missing operand is a fault. -/
theorem exists_missingOperand_of_balanced (hbalanced : Balanced tokens)
    (h : ofInfix tokens = .error cause) : ∃ op : Operator, cause = .missingOperand op.name := by
  have hexplains := explains_faultFrom 0 tokens
  rw [ofInfix_eq_error_iff.1 h] at hexplains
  have hmatched := (matchedFrom_zero_iff tokens).2 hbalanced
  cases hexplains with
  | missing => exact ⟨_, rfl⟩
  | stray _ _ hnot | unclosed _ hnot => rw [hmatched] at hnot; cases hnot

/-- Of the faults of a list of tokens, the one that is met first. -/
theorem toFault_of_ofInfix_eq_error (h : ofInfix tokens = .error cause) :
    (∃ i op, MissingFirst tokens i ∧ tokens[i]? = some (.operator op) ∧
      cause.toFault = .expression (.missingOperand op.name)) ∨
    (∀ i, ¬ MissingFirst tokens i) ∧
      cause.toFault = .expression ⟨.unmatchedParenthesis, none⟩ := by
  have hexplains := explains_faultFrom 0 tokens
  rw [ofInfix_eq_error_iff.1 h] at hexplains
  cases hexplains with
  | @missing i op hop hmissing hfirst hstray =>
    refine .inl ⟨i, op, ⟨⟨hmissing, fun k hk => ?_⟩, fun j hj => ?_⟩, hop, rfl⟩
    · exact Nat.le_of_not_lt fun hlt => hfirst k hlt hk
    · refine Nat.lt_of_le_of_ne (Nat.le_of_not_lt fun hlt => ?_) fun heq => ?_
      · exact hstray j hlt (strayFrom_zero_depth.2 hj)
      · -- the token at the position is an operator
        rw [heq, hj.1] at hop
        cases hop
  | @stray j hstray hfirst =>
    refine .inr ⟨fun i hi => ?_, rfl⟩
    exact hfirst i (hi.2 j (strayFrom_zero_depth.1 hstray)) hi.1.1
  | unclosed hmissing => exact .inr ⟨fun i hi => hmissing i hi.1.1, rfl⟩

/-- **When tokens have a postfix form, and what is wrong with them otherwise.** There is one if and
only if no operator lacks its right operand and the parentheses balance. Otherwise the fault is the
one met first: the first operator without its right operand, unless a closing parenthesis before it
is stray or there is no such operator; then it is the parentheses. -/
theorem ofInfix_rejection (tokens : List Token) :
    ((∃ form, ofInfix tokens = .ok form) ↔
      (∀ i, ¬ OperandMissing tokens i) ∧ Balanced tokens) ∧
    (∀ i op, MissingFirst tokens i → tokens[i]? = some (.operator op) →
      (ofInfix tokens).mapError ParseError.toFault =
        .error (.expression (.missingOperand op.name))) ∧
    (¬ ((∀ i, ¬ OperandMissing tokens i) ∧ Balanced tokens) → (∀ i, ¬ MissingFirst tokens i) →
      (ofInfix tokens).mapError ParseError.toFault =
        .error (.expression ⟨.unmatchedParenthesis, none⟩)) := by
  refine ⟨exists_ofInfix_iff, fun i op hfirst hop => ?_, fun hfault hfirst => ?_⟩
  · cases hform : ofInfix tokens with
    | ok form => exact absurd hfirst.1.1 ((exists_ofInfix_iff.1 ⟨form, hform⟩).1 i)
    | error cause =>
      rcases toFault_of_ofInfix_eq_error hform with ⟨k, opk, hk, hopk, hcause⟩ | ⟨hnone, -⟩
      · obtain rfl : i = k := Nat.le_antisymm (hfirst.1.2 hk.1.1) (hk.1.2 hfirst.1.1)
        rw [hop] at hopk
        cases hopk
        exact congrArg _ hcause
      · exact absurd hfirst (hnone i)
  · cases hform : ofInfix tokens with
    | ok form => exact absurd (exists_ofInfix_iff.1 ⟨form, hform⟩) hfault
    | error cause =>
      rcases toFault_of_ofInfix_eq_error hform with ⟨k, -, hk, -⟩ | ⟨-, hcause⟩
      · exact absurd hk (hfirst k)
      · exact congrArg _ hcause

end

end DeskCalc.Postfix
