import DeskCalc.Proofs.Postfix.Run

/-!
# Tokens in parentheses

An opening parenthesis on the stack is a barrier. No token that is read above it looks at what is
below, and the closing parenthesis that belongs to it takes all that is above. So a run writes the
tokens in parentheses as it writes them alone, whatever is on the stack before (`run_group`), and it
makes no difference whether they are a sentence. They only must not end in an operator: alone it
waits for an operand to the end, and in parentheses the closing one shows that there is none.
-/

namespace DeskCalc.Postfix

section
variable {inner outer below : List (Held False)} {tokens rest written form : List Token}
  {t : Token} {r : Except (ParseError False) (List Token)}

theorem writing_eq_ok_iff :
    writing written r = .ok form ↔ ∃ tail, r = .ok tail ∧ form = written ++ tail := by
  cases r with
  | error cause => exact iff_of_false nofun fun ⟨_, h, _⟩ => nomatch h
  | ok tail =>
    rw [writing_ok, Except.ok.injEq]
    exact ⟨fun h => ⟨tail, rfl, h.symm⟩, fun ⟨_, h, hform⟩ => by cases h; exact hform.symm⟩

/-- What is written at the end is all of the stack, and no parenthesis is left on it. -/
theorem drain_eq_ok_iff :
    drain inner = .ok form ↔
      inner.any Held.isOpening = false ∧ form = inner.filterMap Held.token? := by
  rw [drain]
  split
  · next hopen =>
    refine iff_of_false (fun h => by cases h) fun h => ?_
    rw [h.1] at hopen
    cases hopen
  · next hopen =>
    rw [Except.ok.injEq, Bool.eq_false_iff, and_iff_right hopen]
    exact eq_comm

/-! ## Above a barrier -/

/-- What an element stops when it is taken from the front is there without what comes after it. -/
theorem takeWhile_barrier {α : Type} {p : α → Bool} {x : α} (hx : p x = false) (l r : List α) :
    (l ++ x :: r).takeWhile p = l.takeWhile p := by
  induction l with
  | nil => exact List.takeWhile_cons_of_neg (by simp [hx])
  | cons y l ih => rw [List.cons_append, List.takeWhile_cons, List.takeWhile_cons, ih]

theorem dropWhile_barrier {α : Type} {p : α → Bool} {x : α} (hx : p x = false) (l r : List α) :
    (l ++ x :: r).dropWhile p = l.dropWhile p ++ x :: r := by
  induction l with
  | nil => exact List.dropWhile_cons_of_neg (by simp [hx])
  | cons y l ih =>
    rw [List.cons_append, List.dropWhile_cons, List.dropWhile_cons, ih]
    split <;> rfl

/-- The last token of more tokens. -/
theorem getLast?_ne_of_cons {op : Operator}
    (h : (t :: tokens).getLast? ≠ some (.operator op)) : tokens.getLast? ≠ some (.operator op) := by
  intro hlast
  rw [List.getLast?_cons, hlast] at h
  exact h rfl

/-- After a group above a barrier, the function that it belongs to is above the barrier too. -/
theorem runAfterGroup_barrier
    (ih : ∀ {inner : List (Held False)} {form : List Token}, run inner tokens = .ok form →
      run (inner ++ .opening :: outer) rest = writing form r)
    (h : runAfterGroup below tokens = .ok form) :
    runAfterGroup (below ++ .opening :: outer) rest = writing form r := by
  cases below with
  | nil => exact ih h
  | cons x below =>
    cases x with
    | func f =>
      obtain ⟨tail, htail, rfl⟩ := writing_eq_ok_iff.1 h
      rw [List.cons_append, runAfterGroup, ih htail, writing_writing]
    | operator | opening => exact ih h
    | unlistedFunc name isBare => exact isBare.elim

/-- **In parentheses tokens are written as they are alone.** -/
theorem run_group (h : run inner tokens = .ok form)
    (hlast : ∀ op, tokens.getLast? ≠ some (.operator op)) :
    run (inner ++ .opening :: outer) (tokens ++ .paren false :: rest) =
      writing form (runAfterGroup outer rest) := by
  induction tokens generalizing inner form with
  | nil =>
    obtain ⟨hopen, rfl⟩ := drain_eq_ok_iff.1 h
    have hall : ∀ x ∈ inner, (!x.isOpening) = true := by simpa using hopen
    have hdrop : (inner ++ .opening :: outer).dropWhile (!·.isOpening) = .opening :: outer := by
      rw [List.dropWhile_append_of_pos hall]
      rfl
    have htake : (inner ++ .opening :: outer).takeWhile (!·.isOpening) = inner := by
      rw [List.takeWhile_append_of_pos hall]
      exact List.append_nil inner
    rw [List.nil_append, run_closing hdrop, htake]
  | cons t tokens ih =>
    have ih {inner : List (Held False)} {form : List Token} (h : run inner tokens = .ok form) :=
      ih h fun op => getLast?_ne_of_cons (hlast op)
    cases t with
    | number value text =>
      rw [run_number] at h
      obtain ⟨tail, htail, rfl⟩ := writing_eq_ok_iff.1 h
      rw [List.cons_append, run_number, ih htail, writing_writing]
    | func f =>
      rw [run_func] at h
      rw [List.cons_append, run_func]
      exact ih h
    | paren opening =>
      cases opening with
      | true =>
        rw [run_opening] at h
        rw [List.cons_append, run_opening]
        exact ih h
      | false =>
        cases hdrop : inner.dropWhile (!·.isOpening) with
        | nil =>
          rw [run_closing_of_stray hdrop] at h
          cases h
        | cons x below =>
          obtain rfl := eq_opening_of_dropWhile hdrop
          rw [run_closing hdrop] at h
          obtain ⟨tail, htail, rfl⟩ := writing_eq_ok_iff.1 h
          have hbarrier : (inner ++ .opening :: outer).dropWhile (!·.isOpening) =
              .opening :: (below ++ .opening :: outer) := by
            rw [dropWhile_barrier rfl, hdrop]
            rfl
          rw [List.cons_append, run_closing hbarrier, takeWhile_barrier rfl,
            runAfterGroup_barrier ih htail, writing_writing]
    | operator op =>
      -- it is not the last token, so the one after it is the same in parentheses
      obtain ⟨u, more, rfl⟩ := List.exists_cons_of_ne_nil
        (show tokens ≠ [] from fun hnil => hlast op (by rw [hnil]; rfl))
      cases hmissing : (u :: more).head?.any startsNoOperand with
      | true =>
        rw [run_operator_of_missing op hmissing] at h
        cases h
      | false =>
        rw [run_operator op hmissing] at h
        obtain ⟨tail, htail, rfl⟩ := writing_eq_ok_iff.1 h
        have hnext : (u :: more ++ .paren false :: rest).head?.any startsNoOperand = false :=
          hmissing
        rw [List.cons_append, run_operator op hnext, takeWhile_barrier rfl, dropWhile_barrier rfl,
          ← List.cons_append, ih htail, writing_writing]
    | unlisted kind name isBare => exact isBare.elim

/-! ## Forms of groups -/

/-- Tokens in parentheses. -/
def group (tokens : List Token) : List Token :=
  .paren true :: (tokens ++ [.paren false])

/-- The tokens can be put into parentheses: they have a postfix form and do not end in an
operator. -/
structure Groups (tokens form : List Token) : Prop where
  ofInfix_eq : ofInfix tokens = .ok form
  getLast?_ne : ∀ op, tokens.getLast? ≠ some (.operator op)

/-- A group is written as the tokens in it, whatever is before it and after it. -/
theorem run_group_append (h : Groups tokens form) :
    run outer (group tokens ++ rest) = writing form (runAfterGroup outer rest) := by
  rw [group, List.cons_append, List.append_assoc, run_opening]
  have halone : run [] tokens = .ok form := h.ofInfix_eq
  exact run_group halone h.getLast?_ne

theorem ofInfix_group (h : Groups tokens form) : ofInfix (group tokens) = .ok form := by
  have hrun : run [] (group tokens ++ []) = writing form (run [] []) := run_group_append h
  rw [List.append_nil] at hrun
  exact hrun.trans (congrArg Except.ok (List.append_nil form))

/-- A function of a group is written after it. -/
theorem ofInfix_func_group (f : Func) (h : Groups tokens form) :
    ofInfix (.func f :: group tokens) = .ok (form ++ [.func f]) := by
  have hrun : run [.func f] (group tokens ++ []) = writing form (writing [.func f] (run [] [])) :=
    run_group_append h
  rw [List.append_nil] at hrun
  rw [ofInfix, run_func]
  exact hrun

/-- An operator between groups is written after both. -/
theorem ofInfix_operator_groups {left right form₁ form₂ : List Token} (op : Operator)
    (h₁ : Groups left form₁) (h₂ : Groups right form₂) :
    ofInfix (group left ++ .operator op :: group right) =
      .ok (form₁ ++ form₂ ++ [.operator op]) := by
  have hright : run [.operator op] (group right ++ []) =
      writing form₂ (run [.operator op] []) := run_group_append h₂
  rw [List.append_nil] at hright
  have hoperator : run [] (.operator op :: group right) = run [.operator op] (group right) :=
    run_operator_of_head rfl nofun
  have hleft : run [] (group left ++ .operator op :: group right) =
      writing form₁ (run [] (.operator op :: group right)) := run_group_append h₁
  rw [ofInfix, hleft, hoperator, hright, writing_writing]
  rfl

end

end DeskCalc.Postfix
