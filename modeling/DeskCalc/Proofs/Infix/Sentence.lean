import DeskCalc.Expr
import DeskCalc.Proofs.Infix.Precedence
import DeskCalc.Proofs.Token.Parentheses

/-!
# Sentences by their neighbours

The grammar without trees. A list of tokens is a sentence when each token fits the one before it and
the parentheses balance: an operand is due at the start, after an operator, after a function and
after an opening parenthesis, and nowhere else (`fits`). Precedence plays no part in it.

One direction is an induction over the derivation. For the other one a sentence of each level is
taken from the front of the tokens, as long as it goes (`Begins`): units from sums of fewer tokens,
powers from units, and products and sums from the level below by appending one operand after the
other (`begins_append`).
-/

namespace DeskCalc.Infix

open Postfix Token

/-- Whether an operand is due after the token, where `due` says whether one is due before it. A
token that does not fit has no answer. -/
def dueAfter? : Bool → Token → Option Bool
  | true, .number .. => some false
  | true, .func _ => some true
  | true, .paren true => some true
  | false, .operator _ => some true
  | false, .paren false => some false
  | _, _ => none

/-- Every token fits the one before it, and no operand is due at the end. -/
def fits : Bool → List Token → Bool
  | due, [] => !due
  | due, t :: rest => (dueAfter? due t).any (fits · rest)

section
variable {level : Level} {tokens front rest : List Token} {e : Expr} {depth n : Nat}

/-! ## Sentences fit -/

/-- After a sentence no operand is due. -/
theorem fits_append_of_writes (h : Writes level tokens e) (rest : List Token) :
    fits true (tokens ++ rest) = fits false rest := by
  induction h generalizing rest with
  | number => rfl
  | parenthesized inner ih =>
    rw [List.cons_append, List.cons_append, List.append_assoc, List.singleton_append]
    exact ih _
  | func f argument ih => exact ih rest
  | unit _ ih | power _ ih | term _ ih => exact ih rest
  | pow _ _ ihl ihr | product _ _ _ ihl ihr | sum _ _ _ ihl ihr =>
    rw [List.append_assoc, List.cons_append, ihl]
    exact ihr rest

/-- A sentence closes what it opens. -/
theorem matchedFrom_append_of_writes (h : Writes level tokens e) (depth : Nat)
    (rest : List Token) : matchedFrom depth (tokens ++ rest) = matchedFrom depth rest := by
  induction h generalizing depth rest with
  | number => rfl
  | parenthesized inner ih =>
    rw [List.cons_append, List.cons_append, List.append_assoc, List.singleton_append]
    exact ih (depth + 1) _
  | func f argument ih => exact ih depth rest
  | unit _ ih | power _ ih | term _ ih => exact ih depth rest
  | pow _ _ ihl ihr | product _ _ _ ihl ihr | sum _ _ _ ihl ihr =>
    rw [List.append_assoc, List.cons_append, ihl]
    exact ihr depth rest

/-! ## What fits is a sentence -/

/-- The operators at the front bind more loosely than those of the level. -/
def Looser (level : Level) (rest : List Token) : Prop :=
  ∀ op, rest.head? = some (.operator op) → op.precedence < level.floor

/-- A sentence of the level is at the front of the tokens, and no operator of the level continues
it. -/
def Begins (level : Level) (depth : Nat) (tokens : List Token) : Prop :=
  ∃ front rest e, tokens = front ++ rest ∧ Writes level front e ∧ fits false rest = true ∧
    matchedFrom depth rest = true ∧ Looser level rest

/-- Where an operand is due, a sentence of the level begins, in up to `n` tokens. -/
def Covers (level : Level) (n : Nat) : Prop :=
  ∀ depth tokens, tokens.length ≤ n → fits true tokens = true →
    matchedFrom depth tokens = true → Begins level depth tokens

/-- What stands after a sum is nothing or a closing parenthesis. -/
theorem eq_nil_or_closing_of_looser (hfits : fits false rest = true) (h : Looser .sum rest) :
    rest = [] ∨ ∃ tail, rest = .paren false :: tail ∧ fits false tail = true := by
  rcases rest with _ | ⟨t, tail⟩
  · exact .inl rfl
  cases t with
  | paren opening =>
    cases opening with
    | true => cases hfits
    | false => exact .inr ⟨tail, rfl, hfits⟩
  | operator op =>
    have := h op rfl
    cases op <;> simp [Level.floor, Operator.precedence] at this
  | number | func => cases hfits
  | unlisted kind name isBare => exact isBare.elim

/-- Units need sums of fewer tokens, between parentheses. -/
theorem covers_unit (hsum : Covers .sum n) : Covers .unit (n + 1) := by
  intro depth tokens hlen hfits hmatched
  have hloose (rest : List Token) : Looser .unit rest := by
    intro op _
    cases op <;> decide
  induction tokens with
  | nil => cases hfits
  | cons t tail ih =>
    have htail : tail.length ≤ n := Nat.le_of_succ_le_succ hlen
    cases t with
    | number value text =>
      exact ⟨[.number value text], tail, _, rfl, .number value text, hfits, hmatched, hloose _⟩
    | func f =>
      obtain ⟨front, rest, e, rfl, hw, hf, hm, hl⟩ := ih (Nat.le_succ_of_le htail) hfits hmatched
      exact ⟨.func f :: front, rest, _, rfl, .func f hw, hf, hm, hl⟩
    | paren opening =>
      cases opening with
      | false => cases hfits
      | true =>
        obtain ⟨front, rest, e, rfl, hw, hf, hm, hl⟩ := hsum (depth + 1) tail htail hfits hmatched
        rcases eq_nil_or_closing_of_looser hf hl with rfl | ⟨after, rfl, hafter⟩
        · cases hm
        · exact ⟨.paren true :: front ++ [.paren false], after, e, by simp,
            .parenthesized hw, hafter, hm, hloose _⟩
    | operator op => cases hfits
    | unlisted kind name isBare => exact isBare.elim

/-- A unit, or a unit, the sign of a power and a power of fewer tokens. -/
theorem covers_power (hunit : Covers .unit n) : Covers .power n := by
  intro depth tokens
  induction hk : tokens.length using Nat.strongRecOn generalizing tokens with
  | ind k ih =>
    intro hlen hfits hmatched
    subst hk
    obtain ⟨front, rest, e, rfl, hw, hf, hm, -⟩ := hunit depth tokens hlen hfits hmatched
    by_cases hpow : ∃ tail, rest = .operator .pow :: tail
    · obtain ⟨tail, rfl⟩ := hpow
      have hshort : tail.length < (front ++ .operator .pow :: tail).length := by
        simp only [List.length_append, List.length_cons]
        omega
      obtain ⟨right, after, b, rfl, hwr, hfr, hmr, hlr⟩ :=
        ih _ hshort tail rfl (Nat.le_trans (Nat.le_of_lt hshort) hlen) hf hm
      exact ⟨front ++ .operator .pow :: right, after, _, by simp, .pow hw hwr, hfr, hmr, hlr⟩
    · refine ⟨front, rest, e, rfl, .unit hw, hf, hm, fun op hop => ?_⟩
      cases op with
      | pow =>
        obtain ⟨tail, rfl⟩ := List.head?_eq_some_iff.1 hop
        exact absurd ⟨tail, rfl⟩ hpow
      | add | sub | mul | div => decide

section
variable {tighter : Level}
  (hcons : ∀ {op : Operator}, levelOf op = level → ∀ {left right : List Token} {a b : Expr},
    Writes level left a → Writes tighter right b →
    Writes level (left ++ .operator op :: right) (.binary op a b))
  (hlooser : ∀ op : Operator, op.precedence < tighter.floor → levelOf op ≠ level →
    op.precedence < level.floor)
  (htighter : Covers tighter n)
include hcons hlooser htighter

/-- A sentence of a level that groups to the left, continued by one operand of the tighter level
after the other. -/
theorem begins_append (hw : Writes level front e) (hlen : rest.length ≤ n)
    (hfits : fits false rest = true) (hmatched : matchedFrom depth rest = true)
    (hl : Looser tighter rest) : Begins level depth (front ++ rest) := by
  induction hk : rest.length using Nat.strongRecOn generalizing front rest e with
  | ind k ih =>
    subst hk
    by_cases hop : ∃ op tail, rest = .operator op :: tail ∧ levelOf op = level
    · obtain ⟨op, tail, rfl, hlevel⟩ := hop
      have htail : tail.length ≤ n := Nat.le_of_succ_le hlen
      obtain ⟨right, after, b, rfl, hwr, hfr, hmr, hlr⟩ := htighter depth tail htail hfits hmatched
      have hshort : after.length < (GenToken.operator op :: (right ++ after)).length := by
        simp only [List.length_append, List.length_cons]
        omega
      have := ih _ hshort (hcons hlevel hw hwr) (Nat.le_trans (Nat.le_of_lt hshort) hlen) hfr hmr
        hlr rfl
      simpa using this
    · refine ⟨front, rest, e, rfl, hw, hfits, hmatched, fun op hhead => ?_⟩
      refine hlooser op (hl op hhead) fun hlevel => hop ?_
      obtain ⟨tail, rfl⟩ := List.head?_eq_some_iff.1 hhead
      exact ⟨op, tail, rfl, hlevel⟩

/-- A level that groups to the left needs the tighter level only. -/
theorem covers_of_tighter
    (hlift : ∀ {tokens : List Token} {e : Expr}, Writes tighter tokens e → Writes level tokens e) :
    Covers level n := by
  intro depth tokens hlen hfits hmatched
  obtain ⟨front, rest, e, rfl, hw, hf, hm, hl⟩ := htighter depth tokens hlen hfits hmatched
  rw [List.length_append] at hlen
  exact begins_append hcons hlooser htighter (hlift hw) (by omega) hf hm hl

end

theorem covers_product (hpower : Covers .power n) : Covers .product n := by
  refine covers_of_tighter .product (fun op => ?_) hpower .power
  cases op <;> decide

theorem covers_sum (hproduct : Covers .product n) : Covers .sum n := by
  refine covers_of_tighter .sum (fun op => ?_) hproduct .term
  cases op <;> decide

/-- A sum begins wherever an operand is due. -/
theorem covers_sum_all (n : Nat) : Covers .sum n := by
  induction n with
  | zero =>
    intro depth tokens hlen hfits
    obtain rfl := List.eq_nil_of_length_eq_zero (Nat.le_zero.1 hlen)
    cases hfits
  | succ n ih => exact covers_sum (covers_product (covers_power (covers_unit ih)))

/-- **Tokens are a sentence when neighbours fit and parentheses balance.** -/
theorem exists_denotes_iff :
    (∃ e, Denotes tokens e) ↔ fits true tokens = true ∧ Balanced tokens := by
  rw [← matchedFrom_zero_iff]
  constructor
  · rintro ⟨e, h⟩
    have hfits := fits_append_of_writes h []
    have hmatched := matchedFrom_append_of_writes h 0 []
    rw [List.append_nil] at hfits hmatched
    exact ⟨hfits, hmatched⟩
  · rintro ⟨hfits, hmatched⟩
    obtain ⟨front, rest, e, rfl, hw, hf, hm, hl⟩ :=
      covers_sum_all _ 0 tokens (Nat.le_refl _) hfits hmatched
    rcases eq_nil_or_closing_of_looser hf hl with rfl | ⟨tail, rfl, -⟩
    · exact ⟨e, by rwa [List.append_nil]⟩
    · cases hm

end

end DeskCalc.Infix
