import DeskCalc.Proofs.Postfix.Run
import DeskCalc.Proofs.Result

/-!
# The order of a postfix form

No token is lost, added or moved before a number that it comes after. What waits at a point of a run
is on the stack, from its bottom to its top, or not read yet. The rest of the form is taken from
this list token by token, each when no number is before it (`Defers`); the stack holds no number, so
what is on it may be taken in any order. A step takes what it writes (`defers_of_step`), so a run
takes all that waits (`defers_of_run`), whether the tokens are a sentence or not.

Positions are read off at the end: a list with its positions marked is taken apart as the list is
(`Defers.exists_marked`).
-/

namespace DeskCalc

/-- The token is a number. -/
def GenToken.isNumber {bare : Prop} (t : GenToken bare) : Bool :=
  t.kind = .number

namespace Postfix

variable {bare : Prop}

/-- The tokens of `form` are taken from those of `waiting` one after the other, each of them when no
number is before it, and parentheses are left out. -/
inductive Defers : List (GenToken bare) → List (GenToken bare) → Prop
  | nil : Defers [] []
  | write {front rest form : List (GenToken bare)} {t : GenToken bare}
    (hfront : ∀ u ∈ front, u.isNumber = false) (ht : t.isParen = false)
    (h : Defers (front ++ rest) form) : Defers (front ++ t :: rest) (t :: form)
  | drop {front rest form : List (GenToken bare)} {t : GenToken bare} (ht : t.isParen = true)
    (h : Defers (front ++ rest) form) : Defers (front ++ t :: rest) form

/-- The tokens that wait on a stack, from its bottom to its top. -/
def pending (held : List (Held bare)) : List (GenToken bare) :=
  (held.filterMap Held.token?).reverse

section
variable {held above below after : List (Held bare)}
  {tokens rest form written : List (GenToken bare)}
  {t : GenToken bare} {next : Option (GenToken bare)}

theorem isNumber_eq_false_of_isParen (h : t.isParen = true) : t.isNumber = false := by
  cases t with
  | number => cases h
  | operator | func | paren | unlisted => rfl

/-! ## What waits on the stack -/

theorem pending_append (above below : List (Held bare)) :
    pending (above ++ below) = pending below ++ pending above := by
  rw [pending, List.filterMap_append, List.reverse_append]
  rfl

theorem pending_cons (x : Held bare) (below : List (Held bare)) :
    pending (x :: below) = pending below ++ x.token?.toList := by
  rw [← List.singleton_append, pending_append]
  cases h : x.token? <;> simp [pending, h]

/-- Operators and functions wait. -/
theorem token?_eq_some {x : Held bare} (h : x.token? = some t) :
    t.isNumber = false ∧ t.isParen = false := by
  cases x with
  | opening => cases h
  | operator | func | unlistedFunc => cases h; exact ⟨rfl, rfl⟩

theorem isNumber_eq_false_of_mem_pending (h : t ∈ pending held) : t.isNumber = false := by
  rw [pending, List.mem_reverse, List.mem_filterMap] at h
  obtain ⟨x, -, hx⟩ := h
  exact (token?_eq_some hx).1

/-- What is on the top of the stack is written before what is below it, the latest first. -/
theorem Defers.write_held (above : List (Held bare)) (h : Defers (pending below ++ rest) form) :
    Defers (pending (above ++ below) ++ rest) (above.filterMap Held.token? ++ form) := by
  induction above with
  | nil => exact h
  | cons x above ih =>
    rw [List.cons_append, pending_cons, List.append_assoc]
    cases hx : x.token? with
    | none =>
      rw [List.filterMap_cons_none hx]
      exact ih
    | some t =>
      rw [List.filterMap_cons_some hx]
      exact .write (fun u hu => isNumber_eq_false_of_mem_pending hu) (token?_eq_some hx).2 ih

/-! ## Steps and runs -/

/-- A closing parenthesis has the stack written down to the opening one, and the function below that
if there is one. -/
theorem exists_group_of_step (h : step held (.paren false) next = .ok (written, after)) :
    ∃ group, held.dropWhile (!·.isOpening) = .opening :: (group ++ after) ∧
      (∀ x ∈ group, x.isFunc = true) ∧
      written =
        (held.takeWhile (!·.isOpening)).filterMap Held.token? ++ group.filterMap Held.token? := by
  simp only [step] at h
  split at h
  · cases h
  · next x outer hd =>
    obtain rfl := eq_opening_of_dropWhile hd
    split at h
    · next f below =>
      split at h
      · next hfunc =>
        cases h
        refine ⟨[f], hd, by simpa using hfunc, ?_⟩
        cases hf : f.token? <;> simp [hf]
      · cases h
        exact ⟨[], hd, by simp, (List.append_nil _).symm⟩
    · cases h
      exact ⟨[], hd, by simp, (List.append_nil _).symm⟩

/-- What a closing parenthesis has written is taken from the stack, and it is left out itself. -/
theorem defers_of_closing (ht : t.isParen = true)
    (hstep : step held (.paren false) next = .ok (written, after))
    (h : Defers (pending after ++ rest) form) :
    Defers (pending held ++ t :: rest) (written ++ form) := by
  obtain ⟨group, hd, -, rfl⟩ := exists_group_of_step hstep
  have hheld : (held.takeWhile (!·.isOpening) ++ .opening :: group) ++ after = held := by
    rw [List.append_assoc, List.cons_append, ← hd, List.takeWhile_append_dropWhile]
  have hwritten := h.write_held (held.takeWhile (!·.isOpening) ++ .opening :: group)
  rw [hheld, List.filterMap_append, List.filterMap_cons_none rfl] at hwritten
  exact .drop ht hwritten

/-- **What a step writes is taken from what waits.** -/
theorem defers_of_step (hstep : step held t next = .ok (written, after))
    (h : Defers (pending after ++ rest) form) :
    Defers (pending held ++ t :: rest) (written ++ form) := by
  -- a function or an operator that is put on the stack is waiting where it stood
  have hwaits {x : Held bare} (hx : x.token? = some t) (below : List (Held bare)) :
      pending (x :: below) ++ rest = pending below ++ t :: rest := by
    rw [pending_cons, hx, List.append_assoc]
    rfl
  cases t with
  | number value text =>
    cases hstep
    exact .write (fun u hu => isNumber_eq_false_of_mem_pending hu) rfl h
  | func f =>
    cases hstep
    rwa [hwaits rfl] at h
  | operator op =>
    simp only [step] at hstep
    split at hstep
    · cases hstep
    · cases hstep
      rw [hwaits rfl] at h
      have hwritten := h.write_held (held.takeWhile (·.precedes op))
      rwa [List.takeWhile_append_dropWhile] at hwritten
  | paren opening =>
    cases opening with
    | true =>
      cases hstep
      rw [pending_cons, Held.token?, Option.toList_none, List.append_nil] at h
      exact .drop rfl h
    | false => exact defers_of_closing rfl hstep h
  | unlisted kind name isBare =>
    cases kind with
    | operator =>
      simp only [step] at hstep
      split at hstep <;> cases hstep
    | paren =>
      have hclosing : step held (.paren false) next = .ok (written, after) := hstep
      exact defers_of_closing rfl hclosing h
    | function =>
      cases hstep
      rwa [hwaits rfl] at h

/-- A run that succeeds is a step that does, and a run of the rest. -/
theorem exists_step_of_run (h : run held (t :: tokens) = .ok form) :
    ∃ written after rest, step held t tokens.head? = .ok (written, after) ∧
      run after tokens = .ok rest ∧ form = written ++ rest := by
  obtain ⟨⟨written, after⟩, hstep, h⟩ := exists_of_bind_eq_ok h
  obtain ⟨rest, hrest, h⟩ := exists_of_bind_eq_ok h
  cases h
  exact ⟨written, after, rest, hstep, hrest, rfl⟩

/-- **What a run writes is taken from what waits.** -/
theorem defers_of_run (h : run held tokens = .ok form) : Defers (pending held ++ tokens) form := by
  induction tokens generalizing held form with
  | nil =>
    have hnil : Defers (pending ([] : List (Held bare)) ++ []) [] := .nil
    have hwritten := hnil.write_held held
    simp only [run, drain] at h
    split at h
    · cases h
    · cases h
      simpa using hwritten
  | cons t tokens ih =>
    obtain ⟨written, after, rest, hstep, hrest, rfl⟩ := exists_step_of_run h
    exact defers_of_step hstep (ih hrest)

/-! ## What is taken in this order -/

theorem Defers.isParen_eq_false (h : Defers tokens form) : ∀ t ∈ form, t.isParen = false := by
  induction h with
  | nil => nofun
  | write _ ht _ ih => exact List.forall_mem_cons.2 ⟨ht, ih⟩
  | drop _ _ ih => exact ih

/-- Nothing is taken that was not there. -/
theorem Defers.mem (h : Defers tokens form) (ht : t ∈ form) : t ∈ tokens := by
  induction h with
  | nil => exact ht
  | write _ _ _ ih =>
    rcases List.mem_cons.1 ht with rfl | ht
    · exact List.mem_append_right _ (.head _)
    · exact List.mem_append.2 ((List.mem_append.1 (ih ht)).imp_right (.tail _))
  | drop _ _ ih => exact List.mem_append.2 ((List.mem_append.1 (ih ht)).imp_right (.tail _))

/-- Numbers keep their order. -/
theorem Defers.filter_isNumber (h : Defers tokens form) :
    form.filter GenToken.isNumber = tokens.filter GenToken.isNumber := by
  induction h with
  | nil => rfl
  | @write front rest form t hfront ht h ih =>
    have hnone : front.filter GenToken.isNumber = [] :=
      List.filter_eq_nil_iff.2 fun u hu => by simp [hfront u hu]
    rw [List.filter_append, hnone, List.nil_append] at ih ⊢
    rw [List.filter_cons, List.filter_cons, ih]
  | @drop front rest form t ht h ih =>
    rw [List.filter_append, List.filter_cons_of_neg (by simp [isNumber_eq_false_of_isParen ht]),
      ← List.filter_append, ih]

/-- A token of a list is in the marked list with its position, and can be left out of both. -/
theorem exists_marked_token {front : List (GenToken bare)} {marked : List (GenToken bare × Nat)}
    (htokens : marked.map Prod.fst = front ++ t :: rest)
    (hsorted : marked.Pairwise fun a b => a.2 < b.2) :
    ∃ before m after, marked = before ++ m :: after ∧ before.map Prod.fst = front ∧ m.1 = t ∧
      (before ++ after).map Prod.fst = front ++ rest ∧
      (before ++ after).Pairwise fun a b => a.2 < b.2 := by
  obtain ⟨before, tail, rfl, hbefore, htail⟩ := List.map_eq_append_iff.1 htokens
  obtain ⟨m, after, rfl, hm, hafter⟩ := List.map_eq_cons_iff.1 htail
  refine ⟨before, m, after, rfl, hbefore, hm, by rw [List.map_append, hbefore, hafter], ?_⟩
  exact hsorted.sublist ((List.sublist_cons_self m after).append_left before)

/-- With the positions of the tokens marked, a list is taken apart as without, and no number is
after a token that it was before. -/
theorem Defers.exists_marked (h : Defers tokens form) {marked : List (GenToken bare × Nat)}
    (htokens : marked.map Prod.fst = tokens) (hsorted : marked.Pairwise fun a b => a.2 < b.2) :
    ∃ order : List (GenToken bare × Nat), order.map Prod.fst = form ∧
      order.Perm (marked.filter (!·.1.isParen)) ∧
      order.Pairwise fun a b => b.1.isNumber = true → a.2 < b.2 := by
  induction h generalizing marked with
  | nil =>
    obtain rfl := List.map_eq_nil_iff.1 htokens
    exact ⟨[], rfl, .refl _, .nil⟩
  | @write front rest form t hfront ht h ih =>
    obtain ⟨before, m, after, rfl, hbefore, rfl, hleft, hincreasing⟩ :=
      exists_marked_token htokens hsorted
    obtain ⟨order, hform, hperm, horder⟩ := ih hleft hincreasing
    refine ⟨m :: order, by rw [List.map_cons, hform], ?_, List.pairwise_cons.2 ⟨?_, horder⟩⟩
    · rw [List.filter_append, List.filter_cons_of_pos (by simp [ht])]
      rw [List.filter_append] at hperm
      exact (hperm.cons m).trans List.perm_middle.symm
    · intro b hb hnumber
      have hmem := (List.mem_filter.1 (hperm.subset hb)).1
      rcases List.mem_append.1 hmem with hb | hb
      · -- no number is taken from what is before the token
        have := hfront b.1 (hbefore ▸ List.mem_map_of_mem hb)
        rw [hnumber] at this
        cases this
      · exact List.rel_of_pairwise_cons (List.pairwise_append.1 hsorted).2.1 hb
  | @drop front rest form t ht h ih =>
    obtain ⟨before, m, after, rfl, -, rfl, hleft, hincreasing⟩ :=
      exists_marked_token htokens hsorted
    obtain ⟨order, hform, hperm, horder⟩ := ih hleft hincreasing
    refine ⟨order, hform, ?_, horder⟩
    rwa [List.filter_append, List.filter_cons_of_neg (by simp [ht]), ← List.filter_append]

/-- The positions of a list increase. -/
theorem pairwise_snd_zipIdx (tokens : List (GenToken bare)) :
    tokens.zipIdx.Pairwise fun a b => a.2 < b.2 := by
  have h := List.pairwise_lt_range' (s := 0) (n := tokens.length)
  rwa [← List.zipIdx_map_snd, List.pairwise_map] at h

/-- **Every token is written once, and after all numbers before it.** When tokens have a postfix
form, whether they are a sentence or not, the form holds no parenthesis and the other tokens, each
as often as it was there; the numbers are in the order that they were in; and with the tokens marked
by their positions, no number is written after a token that comes after it. -/
theorem ofInfix_keeps (h : ofInfix tokens = .ok form) :
    (∀ t ∈ form, t.isParen = false) ∧
    form.Perm (tokens.filter (!·.isParen)) ∧
    form.filter GenToken.isNumber = tokens.filter GenToken.isNumber ∧
    ∃ order : List (GenToken bare × Nat), order.map Prod.fst = form ∧
      order.Perm (tokens.zipIdx.filter (!·.1.isParen)) ∧
      order.Pairwise fun a b => b.1.isNumber = true → a.2 < b.2 := by
  have hdefers : Defers tokens form := defers_of_run h
  obtain ⟨order, hform, hperm, horder⟩ :=
    hdefers.exists_marked (List.zipIdx_map_fst 0 tokens) (pairwise_snd_zipIdx tokens)
  refine ⟨hdefers.isParen_eq_false, ?_, hdefers.filter_isNumber, order, hform, hperm, horder⟩
  have hmarked : (tokens.zipIdx.map Prod.fst).filter (!·.isParen) =
      (tokens.zipIdx.filter (!·.1.isParen)).map Prod.fst := List.filter_map
  rw [List.zipIdx_map_fst] at hmarked
  rw [hmarked, ← hform]
  exact hperm.map Prod.fst

/-- `1 sin + (2) 3` is no sentence. -/
theorem ofInfix_keeps_stray_function :
    let tokens : List Token := [.number 1 "1", .func .sin, .operator .add, .paren true,
      .number 2 "2", .paren false, .number 3 "3"]
    let form : List Token := [.number 1 "1", .func .sin, .number 2 "2", .number 3 "3",
      .operator .add]
    ofInfix tokens = .ok form ∧
    (∀ t ∈ form, t.isParen = false) ∧
    form.Perm (tokens.filter (!·.isParen)) ∧
    form.filter GenToken.isNumber = tokens.filter GenToken.isNumber ∧
    ∃ order : List (Token × Nat), order.map Prod.fst = form ∧
      order.Perm (tokens.zipIdx.filter (!·.1.isParen)) ∧
      order.Pairwise fun a b => b.1.isNumber = true → a.2 < b.2 :=
  ⟨rfl, ofInfix_keeps rfl⟩

end

end Postfix

end DeskCalc
