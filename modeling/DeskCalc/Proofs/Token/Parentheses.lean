import DeskCalc.Token

/-!
# The parentheses among tokens

Two readings of "the parentheses balance". `Balanced` counts: no prefix closes more than it opens,
and all in all as many are closed as opened. `matchedFrom` reads the tokens once and keeps the
number of parentheses that are open; it is what a scan or a stack can be compared with, one token
after the other. They agree (`matchedFrom_zero_iff`).
-/

namespace DeskCalc.Token

/-- It is a closing parenthesis. -/
def isClosing : Token → Bool
  | .paren opening => !opening
  | _ => false

/-- The number of opening parentheses. -/
def openings (tokens : List Token) : Nat :=
  tokens.countP GenToken.isOpening

/-- The number of closing parentheses. -/
def closings (tokens : List Token) : Nat :=
  tokens.countP isClosing

/-- The parentheses balance. -/
structure Balanced (tokens : List Token) : Prop where
  /-- No prefix closes more parentheses than it opens. -/
  closings_take_le : ∀ n, closings (tokens.take n) ≤ openings (tokens.take n)
  /-- As many are closed as opened. -/
  closings_eq : closings tokens = openings tokens

/-- The number of parentheses that are open after a token. -/
def depthAfter (depth : Nat) (t : Token) : Nat :=
  if t.isOpening then depth + 1 else if isClosing t then depth - 1 else depth

/-- The token closes a parenthesis and none is open. -/
def isStray (depth : Nat) (t : Token) : Bool :=
  isClosing t && depth == 0

/-- Every closing parenthesis has an opening one, and none is left, when `depth` of them are open
before the tokens. -/
def matchedFrom : Nat → List Token → Bool
  | depth, [] => depth == 0
  | depth, t :: rest => !isStray depth t && matchedFrom (depthAfter depth t) rest

section
variable {depth : Nat} {t : Token} {rest : List Token}

/-- The depth counts what is opened and closed. -/
theorem depthAfter_add_closings (h : isStray depth t = false) :
    depthAfter depth t + (if isClosing t then 1 else 0) =
      depth + (if t.isOpening then 1 else 0) := by
  cases t with
  | paren opening =>
    cases opening with
    | true => rfl
    | false =>
      have hdepth : depth ≠ 0 := by simpa [isStray, isClosing] using h
      simp only [depthAfter, isClosing, GenToken.isOpening, Bool.not_false, if_true, if_false,
        Bool.false_eq_true]
      omega
  | number | operator | func => rfl
  | unlisted kind name isBare => exact isBare.elim

/-- A token is stray when it closes more than is open. -/
theorem isStray_eq_false_of_le
    (h : (if isClosing t then 1 else 0) ≤ depth + (if t.isOpening then 1 else 0)) :
    isStray depth t = false := by
  cases t with
  | paren opening =>
    cases opening with
    | true => rfl
    | false =>
      have hdepth : 1 ≤ depth := by simpa [isClosing, GenToken.isOpening] using h
      simp [isStray]
      omega
  | number | operator | func => rfl
  | unlisted kind name isBare => exact isBare.elim

theorem openings_cons :
    openings (t :: rest) = openings rest + (if t.isOpening then 1 else 0) :=
  List.countP_cons

theorem closings_cons :
    closings (t :: rest) = closings rest + (if isClosing t then 1 else 0) :=
  List.countP_cons

end

/-- What `matchedFrom` accepts, by counting. -/
theorem matchedFrom_iff (depth : Nat) (tokens : List Token) :
    matchedFrom depth tokens = true ↔
      (∀ n, closings (tokens.take n) ≤ depth + openings (tokens.take n)) ∧
        closings tokens = depth + openings tokens := by
  induction tokens generalizing depth with
  | nil =>
    simp only [matchedFrom, beq_iff_eq, List.take_nil, closings, openings, List.countP_nil]
    exact ⟨fun h => ⟨fun _ => Nat.zero_le _, h.symm⟩, fun h => h.2.symm⟩
  | cons t rest ih =>
    rw [matchedFrom, Bool.and_eq_true, Bool.not_eq_true', ih]
    constructor
    · rintro ⟨hstray, hclosed, htotal⟩
      have hdepth := depthAfter_add_closings hstray
      refine ⟨fun n => ?_, ?_⟩
      · cases n with
        | zero => simp [closings, openings]
        | succ n =>
          have := hclosed n
          rw [List.take_succ_cons, closings_cons, openings_cons]
          omega
      · rw [closings_cons, openings_cons]
        omega
    · rintro ⟨hclosed, htotal⟩
      have hstray : isStray depth t = false :=
        isStray_eq_false_of_le (by simpa [closings, openings, List.countP_cons] using hclosed 1)
      have hdepth := depthAfter_add_closings hstray
      refine ⟨hstray, fun n => ?_, ?_⟩
      · have := hclosed (n + 1)
        rw [List.take_succ_cons, closings_cons, openings_cons] at this
        omega
      · rw [closings_cons, openings_cons] at htotal
        omega

/-- The two readings agree. -/
theorem matchedFrom_zero_iff (tokens : List Token) :
    matchedFrom 0 tokens = true ↔ Balanced tokens := by
  rw [matchedFrom_iff]
  simp only [Nat.zero_add]
  exact ⟨fun h => ⟨h.1, h.2⟩, fun h => ⟨h.1, h.2⟩⟩

end DeskCalc.Token
