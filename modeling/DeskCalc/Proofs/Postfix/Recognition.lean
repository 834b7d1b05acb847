import DeskCalc.Proofs.Expr.Failure
import DeskCalc.Proofs.Postfix.Listing

/-!
# Which tokens are a postfix form

Tokens are the postfix form of one tree, or their structure breaks at one place: at a token that
takes more operands than there are, at a parenthesis, or at the end, where no tree or more than one
is left (`Breaks`). Up to that place the tokens are the forms of some trees, and these are evaluated
as trees are (`foldlM_apply_listing`). So there are two kinds of faults, and the earlier one wins:
an operation without a value in the trees before the break, and the break itself.
-/

namespace DeskCalc.Postfix

/-- The tokens after some trees do not go on: why the first of them cannot be read, or what is wrong
with the trees when there is none. -/
inductive Breaks : List Expr → List Token → EvalError False → Prop
  /-- There is nothing at all. -/
  | empty : Breaks [] [] .empty
  /-- More than one tree is left at the end. -/
  | leftover {trees : List Expr} (htrees : 2 ≤ trees.length) :
    Breaks trees [] (.leftover trees.length)
  /-- A function has no tree to take. -/
  | func (f : Func) (rest : List Token) : Breaks [] (.func f :: rest) (.insufficientOperands f.name)
  /-- An operator has fewer than two trees to take. -/
  | operator {trees : List Expr} (htrees : trees.length < 2) (op : Operator) (rest : List Token) :
    Breaks trees (.operator op :: rest) (.insufficientOperands op.name)
  /-- A parenthesis is part of no postfix form. -/
  | parenthesis (trees : List Expr) (opening : Bool) (rest : List Token) :
    Breaks trees (.paren opening :: rest) .parenthesis

/-- The values of trees, the latest first. The earliest tree is evaluated first. -/
def valuesOf (base : LogBase) : List Expr → Except ArithmeticError (List Float)
  | [] => .ok []
  | e :: below => do
    let values ← valuesOf base below
    return (← e.value base) :: values

/-- The error of the first operation without a value in trees, the earliest tree first. -/
def firstFailureIn? (base : LogBase) (trees : List Expr) : Option ArithmeticError :=
  (trees.reverse.flatMap Expr.subtrees).findSome? (Expr.failure? base)

section
variable {base : LogBase} {trees : List Expr} {form rest : List Token} {t : Token}
  {fault : EvalError False}

/-! ## Where tokens stop being forms of trees -/

/-- A token that cannot be read after some trees breaks the structure. -/
theorem exists_breaks_of_grow (h : grow trees t = none) (rest : List Token) :
    ∃ fault, Breaks trees (t :: rest) fault := by
  cases t with
  | number value text => cases h
  | func f =>
    cases trees with
    | nil => exact ⟨_, .func f rest⟩
    | cons e below => cases h
  | operator op =>
    rcases trees with _ | ⟨b, _ | ⟨a, below⟩⟩
    · exact ⟨_, .operator (by decide) op rest⟩
    · exact ⟨_, .operator (by simp) op rest⟩
    · cases h
  | paren opening => exact ⟨_, .parenthesis trees opening rest⟩
  | unlisted kind name isBare => exact isBare.elim

/-- Tokens are read to a single tree, or their structure breaks. -/
theorem grows_or_breaks (trees : List Expr) (form : List Token) :
    (∃ e, form.foldlM grow trees = some [e]) ∨
      ∃ read after rest fault, form = read ++ rest ∧ read.foldlM grow trees = some after ∧
        Breaks after rest fault := by
  induction form generalizing trees with
  | nil =>
    rcases trees with _ | ⟨b, _ | ⟨a, below⟩⟩
    · exact .inr ⟨[], [], [], _, rfl, rfl, .empty⟩
    · exact .inl ⟨b, rfl⟩
    · exact .inr ⟨[], _, [], _, rfl, rfl, .leftover (by simp)⟩
  | cons t form ih =>
    cases hgrow : grow trees t with
    | none =>
      obtain ⟨fault, hbreaks⟩ := exists_breaks_of_grow hgrow form
      exact .inr ⟨[], trees, t :: form, fault, rfl, rfl, hbreaks⟩
    | some next =>
      rcases ih next with ⟨e, he⟩ | ⟨read, after, rest, fault, rfl, hread, hbreaks⟩
      · exact .inl ⟨e, by rw [List.foldlM_cons, hgrow]; exact he⟩
      · refine .inr ⟨t :: read, after, rest, fault, rfl, ?_, hbreaks⟩
        rw [List.foldlM_cons, hgrow]
        exact hread

/-- Tokens are the postfix form of a tree, or their structure breaks. -/
theorem exists_postorder_or_breaks (form : List Token) :
    (∃ e, form = Expr.postorder e) ∨
      ∃ trees rest fault, form = listing trees ++ rest ∧ Breaks trees rest fault := by
  rcases grows_or_breaks [] form with ⟨e, he⟩ | ⟨read, trees, rest, fault, rfl, hread, hbreaks⟩
  · have hform := listing_foldlM_grow he
    rw [listing_cons, listing_nil, List.nil_append, List.nil_append] at hform
    exact .inl ⟨e, hform.symm⟩
  · have hform := listing_foldlM_grow hread
    rw [listing_nil, List.nil_append] at hform
    exact .inr ⟨trees, rest, fault, by rw [hform], hbreaks⟩

/-! ## Values -/

/-- Reading the forms of trees adds their values, or stops with the error of the first tree that has
none. -/
theorem foldlM_apply_listing (base : LogBase) (trees : List Expr) :
    (listing trees).foldlM (apply base) [] =
      (valuesOf base trees).mapError EvalError.arithmetic := by
  induction trees with
  | nil => rfl
  | cons e below ih =>
    rw [listing_cons, List.foldlM_append, ih, valuesOf]
    cases valuesOf base below with
    | error cause => rfl
    | ok values =>
      change e.postorder.foldlM (apply base) values = _
      rw [Expr.foldlM_apply_postorder]
      cases e.value base <;> rfl

theorem firstFailureIn?_cons (base : LogBase) (e : Expr) (below : List Expr) :
    firstFailureIn? base (e :: below) =
      (firstFailureIn? base below).or (e.firstFailure? base) := by
  rw [firstFailureIn?, List.reverse_cons, List.flatMap_append, List.findSome?_append,
    List.flatMap_singleton]
  rfl

/-- Trees have values unless an operation in them has none. -/
theorem firstFailureIn?_eq (base : LogBase) (trees : List Expr) :
    firstFailureIn? base trees =
      match valuesOf base trees with
      | .ok _ => none
      | .error cause => some cause := by
  induction trees with
  | nil => rfl
  | cons e below ih =>
    rw [firstFailureIn?_cons, ih, Expr.firstFailure?_eq, valuesOf]
    cases valuesOf base below with
    | error cause => rfl
    | ok values => cases e.value base <;> rfl

theorem length_valuesOf {values : List Float} (h : valuesOf base trees = .ok values) :
    values.length = trees.length := by
  induction trees generalizing values with
  | nil => cases h; rfl
  | cons e below ih =>
    rw [valuesOf] at h
    cases hbelow : valuesOf base below with
    | error cause => rw [hbelow] at h; cases h
    | ok others =>
      cases he : e.value base with
      | error cause => rw [hbelow, he] at h; cases h
      | ok x =>
        rw [hbelow, he] at h
        cases h
        rw [List.length_cons, List.length_cons, ih hbelow]

theorem listing_eq_nil_iff : listing trees = [] ↔ trees = [] := by
  cases trees with
  | nil => simp
  | cons e below => simp [e.postorder_ne_nil]

/-- After as many values as trees, the tokens fail as their structure breaks. -/
theorem result_of_breaks (h : Breaks trees rest fault) (hne : listing trees ++ rest ≠ [])
    {values : List Float} (hvalues : values.length = trees.length) :
    (rest.foldlM (apply base) values >>= result) = .error fault := by
  cases h with
  | empty => exact absurd rfl hne
  | leftover htrees =>
    rw [← hvalues] at htrees ⊢
    rcases values with _ | ⟨y, _ | ⟨x, values⟩⟩
    · cases htrees
    · rw [List.length_singleton] at htrees
      omega
    · rfl
  | func f rest =>
    obtain rfl := List.eq_nil_of_length_eq_zero hvalues
    rfl
  | operator htrees op rest =>
    rw [← hvalues] at htrees
    rcases values with _ | ⟨y, _ | ⟨x, values⟩⟩
    · rfl
    · rfl
    · simp only [List.length_cons] at htrees
      omega
  | parenthesis => rfl

/-- **Of the faults of broken tokens the first one wins**: an operation without a value in the trees
before the break, else the break. -/
theorem value_of_breaks (base : LogBase) (h : Breaks trees rest fault) :
    value base (listing trees ++ rest) =
      .error ((firstFailureIn? base trees).elim fault .arithmetic) := by
  by_cases hne : listing trees ++ rest = []
  · obtain ⟨htrees, rfl⟩ := List.append_eq_nil_iff.1 hne
    obtain rfl := listing_eq_nil_iff.1 htrees
    cases h with
    | empty => rfl
    | leftover htrees => cases htrees
  · rw [value, List.isEmpty_eq_false_iff.2 hne, List.foldlM_append, foldlM_apply_listing,
      firstFailureIn?_eq]
    cases hvalues : valuesOf base trees with
    | error cause => rfl
    | ok values => exact result_of_breaks h hne (length_valuesOf hvalues)

/-! ## Recognition -/

/-- What a user sees of a break: there is nothing, operands are missing, or the tokens are no
expression. -/
theorem toFault_of_breaks (h : Breaks trees rest fault) :
    (trees = [] ∧ rest = [] ∧ fault.toFault = .expression ⟨.emptyExpression, none⟩) ∨
      fault.toFault = .expression ⟨.insufficientOperands, none⟩ ∨
      fault.toFault = .expression ⟨.invalidExpression, none⟩ := by
  cases h with
  | empty => exact .inl ⟨rfl, rfl, rfl⟩
  | func | operator => exact .inr (.inl rfl)
  | leftover | parenthesis => exact .inr (.inr rfl)

/-- A postfix form holds no parenthesis. -/
theorem paren_notMem_postorder (e : Expr) (opening : Bool) : .paren opening ∉ e.postorder := by
  induction e with
  | number value text => simp [Expr.postorder]
  | unary f argument ih => simp [Expr.postorder, ih]
  | binary op left right ihl ihr => simp [Expr.postorder, ihl, ihr]

/-- A form without a value has an operation without one, or it breaks after trees with values. -/
theorem arithmetic_or_breaks_of_value {cause : EvalError False}
    (h : value base form = .error cause) :
    (∃ e, cause = .arithmetic e) ∨
      ∃ trees rest values, form = listing trees ++ rest ∧ valuesOf base trees = .ok values ∧
        Breaks trees rest cause := by
  rcases exists_postorder_or_breaks form with ⟨e, rfl⟩ | ⟨trees, rest, fault, rfl, hbreaks⟩
  · rw [Expr.value_postorder] at h
    cases hvalue : e.value base with
    | ok x => rw [hvalue] at h; cases h
    | error c => rw [hvalue] at h; cases h; exact .inl ⟨c, rfl⟩
  · rw [value_of_breaks base hbreaks, firstFailureIn?_eq] at h
    cases hvalues : valuesOf base trees with
    | error c => rw [hvalues] at h; cases h; exact .inl ⟨c, rfl⟩
    | ok values =>
      rw [hvalues] at h
      cases h
      exact .inr ⟨trees, rest, values, rfl, hvalues, hbreaks⟩

/-- What is left over at the end are two values or more. -/
theorem two_le_of_leftover {n : Nat} (h : value base form = .error (.leftover n)) :
    ∃ values, form.foldlM (apply base) [] = .ok values ∧ values.length = n ∧ 2 ≤ n := by
  rcases arithmetic_or_breaks_of_value h with ⟨e, he⟩ | ⟨trees, rest, values, rfl, hvalues, hbreaks⟩
  · cases he
  · cases hbreaks with
    | leftover htrees =>
      refine ⟨values, ?_, length_valuesOf hvalues, htrees⟩
      rw [List.append_nil, foldlM_apply_listing, hvalues]
      rfl

/-- **The postfix forms of trees, and no other tokens, have a value.** It is the value of the tree,
of which there is one, or else the error of its first operation without one. Tokens that are no
postfix form, such as those with a parenthesis, are refused at the place where their structure
breaks, unless an operation before it has no value. -/
theorem value_recognises (base : LogBase) (form : List Token) :
    ((∃ x, value base form = .ok x) → ∃ e, form = Expr.postorder e) ∧
    (∀ e, form = Expr.postorder e →
      (∀ other, form = Expr.postorder other → other = e) ∧
      value base form = (e.value base).mapError .arithmetic ∧
      ∀ cause, value base form = .error (.arithmetic cause) ↔ e.firstFailure? base = some cause) ∧
    ((∃ opening, .paren opening ∈ form) → ∀ e, form ≠ Expr.postorder e) ∧
    ((∀ e, form ≠ Expr.postorder e) →
      ∃ trees rest fault, form = listing trees ++ rest ∧ Breaks trees rest fault ∧
        value base form = .error ((firstFailureIn? base trees).elim fault .arithmetic) ∧
        ((form = [] ∧ fault.toFault = .expression ⟨.emptyExpression, none⟩) ∨
          fault.toFault = .expression ⟨.insufficientOperands, none⟩ ∨
          fault.toFault = .expression ⟨.invalidExpression, none⟩)) := by
  refine ⟨fun ⟨x, hx⟩ => ?_, fun e he => ⟨fun other hother => ?_, ?_, fun cause => ?_⟩,
    fun ⟨opening, hmem⟩ e he => ?_, fun hform => ?_⟩
  · obtain ⟨e, he, -⟩ := exists_postorder_of_value_eq_ok hx
    exact ⟨e, he⟩
  · exact Expr.postorder_injective (hother.symm.trans he)
  · rw [he, Expr.value_postorder]
  · rw [he, Expr.value_postorder, Expr.firstFailure?_eq_some_iff]
    cases e.value base with
    | ok x => constructor <;> intro h <;> cases h
    | error c => constructor <;> intro h <;> cases h <;> rfl
  · exact paren_notMem_postorder e opening (he ▸ hmem)
  · rcases exists_postorder_or_breaks form with ⟨e, he⟩ | ⟨trees, rest, fault, rfl, hbreaks⟩
    · exact absurd he (hform e)
    · refine ⟨trees, rest, fault, rfl, hbreaks, value_of_breaks base hbreaks, ?_⟩
      refine (toFault_of_breaks hbreaks).imp_left fun ⟨htrees, hrest, hfault⟩ => ⟨?_, hfault⟩
      rw [htrees, hrest]
      rfl

end

end DeskCalc.Postfix
